import CommandCompletion.Proofs.Toml.Sections

namespace CommandCompletion

-- Texts and truth values, which are what settings are.
def Value.isSimple : Value → Bool
  | .text _ | .bool _ => true
  | _ => false

-- A value that holds no half of its own.
def Value.isWhole : Value → Bool
  | .text s => !s.hasHalf
  | _ => true

namespace Toml

variable {members : Dict Value} {parts : Sections} {value : Value}

theorem behindKey_text (s : Text) : behindKey (.text s) = .ok (quotedText s) := by
  rw [behindKey, roomFor, inline]
  · rfl
  all_goals simp

theorem isStorable_of_isSimple (simple : value.isSimple) : value.IsStorable := by
  cases value with
  | text s => exact .text s
  | bool b => exact .bool b
  | _ => cases simple

theorem exists_behindKey_of_isWhole (simple : value.isSimple) (whole : value.isWhole) :
    ∃ printed, behindKey value = .ok (.ofChars printed) := by
  cases value with
  | text s =>
    obtain ⟨chars, rfl⟩ := Text.exists_eq_ofChars (by simpa [Value.isWhole] using whole)
    exact ⟨quotedChars chars, by rw [behindKey_text, quotedText_ofChars]⟩
  | bool b => cases b <;> exact ⟨_, rfl⟩
  | _ => cases simple

theorem isSection_of_isSimple (simple : value.isSimple) : isSection value = .ok false := by
  cases value <;> first | rfl | cases simple

-- A line that holds a half is not printed, and nothing behind it is.
theorem lines_of_half {name : Text} (simple : value.isSimple) (broken : value.isWhole = false)
    (members : Dict Value) : lines ((name, value) :: members) = ⟨[], some .halfText⟩ := by
  cases value with
  | text s =>
    have hhalf : (keyPart name ++ Text.ofString " = " ++ quotedText s ++
        Text.ofString "\n").hasHalf := by
      have hs : s.hasHalf := by simpa [Value.isWhole] using broken
      simp [Text.hasHalf_append, hasHalf_quotedText, hs]
    rw [lines, behindKey_text]
    dsimp only
    rw [Printout.ofText, Text.chars?_eq_none hhalf]
    rfl
  | bool b => cases broken
  | _ => cases simple

-- Members with names that can be printed and with simple values.
def Simple (members : Dict Value) : Prop :=
  ∀ member ∈ members, member.1.hasHalf = false ∧ member.2.isSimple

def wholeFront (members : Dict Value) : Dict Value :=
  members.takeWhile (·.2.isWhole)

def allWhole (members : Dict Value) : Bool :=
  members.all (·.2.isWhole)

theorem Simple.flat (simple : Simple members) : Flat members :=
  fun member hmember => isSection_of_isSimple (simple member hmember).2

theorem Simple.wholeFront (simple : Simple members) : Simple (wholeFront members) :=
  fun member hmember => simple member ((List.takeWhile_sublist _).mem hmember)

theorem allWhole_wholeFront (members : Dict Value) : allWhole (wholeFront members) :=
  List.all_takeWhile

theorem wholeFront_of_allWhole (h : allWhole members) : wholeFront members = members :=
  List.takeWhile_eq_self_iff.mpr (List.all_eq_true.mp h)

theorem lines_of_simple (simple : Simple members) :
    lines members =
      ⟨(lines (wholeFront members)).text, if allWhole members then none else some .halfText⟩ := by
  induction members with
  | nil => rfl
  | cons member members ih =>
    obtain ⟨⟨hname, hsimple⟩, hmembers⟩ := List.forall_mem_cons.mp simple
    obtain ⟨name, value⟩ := member
    by_cases whole : value.isWhole
    · obtain ⟨printed, hprinted⟩ := exists_behindKey_of_isWhole hsimple whole
      obtain ⟨chars, rfl⟩ := Text.exists_eq_ofChars hname
      have hfront : wholeFront ((.ofChars chars, value) :: members) =
          (.ofChars chars, value) :: wholeFront members := List.takeWhile_cons_of_pos whole
      have hall : allWhole ((.ofChars chars, value) :: members) = allWhole members := by
        simp [allWhole, whole]
      rw [hfront, hall, lines_cons hprinted, lines_cons hprinted, ih hmembers]
    · have hfront : wholeFront ((name, value) :: members) = [] := List.takeWhile_cons_of_neg whole
      have hall : allWhole ((name, value) :: members) = false := by simp [allWhole, whole]
      rw [lines_of_half hsimple (by simpa using whole), hfront, hall]
      rfl

-- The sections of a document up to the first value that cannot be printed.
def cut : Sections → Sections
  | [] => []
  | (part, members) :: parts =>
    if allWhole members then (part, members) :: cut parts else [(part, wholeFront members)]

def SimpleSections (parts : Sections) : Prop :=
  ∀ part ∈ parts, part.1.hasHalf = false ∧ Simple part.2 ∧ part.2.Distinct

theorem distinct_wholeFront (distinct : members.Distinct) : (wholeFront members).Distinct :=
  distinct.sublist ((List.takeWhile_sublist _).map _)

theorem allWhole_cut (parts : Sections) : (cut parts).all (allWhole ·.2) := by
  induction parts with
  | nil => rfl
  | cons part parts ih =>
    obtain ⟨part, members⟩ := part
    rw [cut]
    split
    · next whole => simpa [whole] using ih
    · simp [allWhole_wholeFront]

theorem SimpleSections.cut (simple : SimpleSections parts) : SimpleSections (cut parts) := by
  induction parts with
  | nil => nofun
  | cons part parts ih =>
    obtain ⟨⟨hname, hmembers, hdistinct⟩, hparts⟩ := List.forall_mem_cons.mp simple
    obtain ⟨part, members⟩ := part
    rw [Toml.cut]
    split
    · exact List.forall_mem_cons.mpr ⟨⟨hname, hmembers, hdistinct⟩, ih hparts⟩
    · exact List.forall_mem_singleton.mpr
        ⟨hname, hmembers.wholeFront, distinct_wholeFront hdistinct⟩

theorem SimpleSections.isStorable (simple : SimpleSections parts)
    (distinct : (parts.map Prod.fst).Nodup) : (Value.table (tables parts)).IsStorable := by
  refine .table (by rwa [Dict.Distinct, keys_tables]) fun member hmember => ?_
  obtain ⟨part, hpart, rfl⟩ := List.mem_map.mp hmember
  obtain ⟨-, hsimple, hdistinct⟩ := simple part hpart
  exact .table hdistinct fun member hmember => isStorable_of_isSimple (hsimple member hmember).2

theorem keys_cut_sublist (parts : Sections) :
    ((cut parts).map Prod.fst).Sublist (parts.map Prod.fst) := by
  induction parts with
  | nil => exact .slnil
  | cons part parts ih =>
    obtain ⟨part, members⟩ := part
    rw [cut]
    split
    · exact ih.cons_cons part
    · exact (List.nil_sublist _).cons_cons part

-- Every value of a document with its section and its name, in the order in which they are printed.
def entries (parts : Sections) : List ((Text × Text) × Value) :=
  parts.flatMap fun part => part.2.map fun member => ((part.1, member.1), member.2)

theorem entries_cons (part : Text) (members : Dict Value) (parts : Sections) :
    entries ((part, members) :: parts) =
      (members.map fun member => ((part, member.1), member.2)) ++ entries parts :=
  List.flatMap_cons

theorem entries_cut (parts : Sections) :
    entries (cut parts) = (entries parts).takeWhile (·.2.isWhole) := by
  induction parts with
  | nil => rfl
  | cons part parts ih =>
    obtain ⟨part, members⟩ := part
    have hfront : (members.map fun member => ((part, member.1), member.2)).takeWhile (·.2.isWhole) =
        (wholeFront members).map fun member => ((part, member.1), member.2) := List.takeWhile_map ..
    rw [cut, entries_cons, List.takeWhile_append, hfront, List.length_map, List.length_map]
    split
    · next whole =>
      rw [wholeFront_of_allWhole whole, if_pos rfl, entries_cons, ih]
    · next broken =>
      rw [if_neg, entries_cons]
      · exact List.append_nil _
      · intro hlength
        have hall : wholeFront members = members := (List.takeWhile_prefix _).eq_of_length hlength
        exact broken (List.all_eq_true.mpr (List.takeWhile_eq_self_iff.mp hall))

theorem all_entries (parts : Sections) :
    (entries parts).all (·.2.isWhole) = parts.all (allWhole ·.2) := by
  simp [entries, allWhole, List.all_flatMap, List.all_map, Function.comp_def]

theorem exists_mem_of_mem_cut {part : Text × Dict Value} (h : part ∈ cut parts) :
    ∃ members, (part.1, members) ∈ parts ∧ part.2.Sublist members := by
  induction parts with
  | nil => cases h
  | cons head parts ih =>
    obtain ⟨first, members⟩ := head
    rw [cut] at h
    split at h
    · rcases List.mem_cons.mp h with rfl | h
      · exact ⟨members, List.mem_cons_self, .refl _⟩
      · obtain ⟨members, hmem, hsub⟩ := ih h
        exact ⟨members, List.mem_cons_of_mem _ hmem, hsub⟩
    · cases List.mem_singleton.mp h
      exact ⟨members, List.mem_cons_self, List.takeWhile_sublist _⟩

-- What is printed is what a document would print that ended before the fault.
theorem sections_of_simple (simple : SimpleSections parts) (printed : Bool) :
    sections printRoom [] printed (tables parts) =
      ⟨(sections printRoom [] printed (tables (cut parts))).text,
        if parts.all (allWhole ·.2) then none else some .halfText⟩ := by
  induction parts generalizing printed with
  | nil =>
    rw [cut, sections_tables_nil]
    rfl
  | cons part parts ih =>
    obtain ⟨⟨hname, hmembers, -⟩, hparts⟩ := List.forall_mem_cons.mp simple
    obtain ⟨part, members⟩ := part
    obtain ⟨chars, rfl⟩ := Text.exists_eq_ofChars hname
    have hlines := lines_of_simple hmembers
    rw [sections_tables_cons hmembers.flat, cut]
    cases whole : allWhole members with
    | true =>
      have hall : List.all ((.ofChars chars, members) :: parts) (allWhole ·.2) =
          parts.all (allWhole ·.2) := by
        rw [List.all_cons, whole, Bool.true_and]
      rw [if_pos rfl, sections_tables_cons hmembers.flat, hlines, whole, ih hparts, hall]
      simp [Printout.andThen]
    | false =>
      have hfront : Flat (wholeFront members) := hmembers.wholeFront.flat
      rw [if_neg Bool.false_ne_true, sections_tables_cons hfront, hlines, whole, sections_tables_nil,
        Printout.andThen_nil]
      simp [Printout.andThen, whole, sectionText, hlines]

-- Printing settings and reading them back loses nothing but what stands at and behind the first
-- text with a half in it.
theorem read_print_cut (simple : SimpleSections parts) (distinct : (parts.map Prod.fst).Nodup) :
    (print (tables parts)).fault = (if parts.all (allWhole ·.2) then none else some .halfText) ∧
      read (print (tables parts)).text = .ok (tables (cut parts)) := by
  have hsections := sections_of_simple simple false
  have hfault : (print (tables (cut parts))).fault = none := by
    rw [print_tables, sections_of_simple simple.cut, allWhole_cut, if_pos rfl]
  have hread := read_print (simple.cut.isStorable (distinct.sublist (keys_cut_sublist parts))) hfault
  rw [arranged_tables fun part hpart => (simple.cut part hpart).2.1.flat, print_tables] at hread
  rw [print_tables, hsections]
  exact ⟨rfl, hread⟩

end Toml

end CommandCompletion
