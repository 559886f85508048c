import CommandCompletion.Proofs.Toml.Document

namespace CommandCompletion.Toml

-- A document whose values all stand in sections, none of them in another.
abbrev Sections := List (Text × Dict Value)

def tables (parts : Sections) : Dict Value :=
  parts.map fun (part, members) => (part, .table members)

theorem keys_tables (parts : Sections) : Dict.keys (tables parts) = parts.map Prod.fst := by
  simp [tables, Dict.keys]

variable {parts : Sections} {name : Text} {members : Dict Value}

-- Members none of which is printed in a section of its own.
def Flat (members : Dict Value) : Prop :=
  ∀ member ∈ members, isSection member.2 = .ok false

theorem sorted_of_flat (flat : Flat members) : sorted members = .ok (members.map (false, ·)) := by
  induction members with
  | nil => rfl
  | cons member members ih =>
    obtain ⟨hmember, hmembers⟩ := List.forall_mem_cons.mp flat
    simp only [sorted, hmember, ih hmembers, bind, Except.bind]
    rfl

theorem isOwn_of_flat (flat : Flat members) : ∀ member ∈ members, isOwn member.2 = false :=
  fun member hmember => by simp [isOwn, flat member hmember]

theorem sections_of_flat (flat : Flat members) (room : Nat) (name : Text) (printed : Bool) :
    sections room name printed members = ⟨[], none⟩ := by
  have hown := isOwn_of_flat flat
  clear flat
  induction members with
  | nil => rw [sections]
  | cons member members ih =>
    obtain ⟨hmember, hmembers⟩ := List.forall_mem_cons.mp hown
    rw [sections_of_plain hmember, ih hmembers]

theorem arranged_of_flat (flat : Flat members) : arranged members = members := by
  have hown := isOwn_of_flat flat
  have hplain : plainOf members = members :=
    List.filter_eq_self.mpr fun member hmember => by simp [hown member hmember]
  have hsections : ownSections members = [] := by
    have hkeys := keys_ownSections members
    rw [List.filter_eq_nil_iff.mpr fun member hmember => by simp [hown member hmember]] at hkeys
    exact List.map_eq_nil_iff.mp hkeys
  rw [arranged, hplain, hsections, List.append_nil]

-- Sections in which no others stand are read in the order in which they stand.
theorem arranged_tables (flat : ∀ part ∈ parts, Flat part.2) :
    arranged (tables parts) = tables parts := by
  have hplain : plainOf (tables parts) = [] := by
    refine List.filter_eq_nil_iff.mpr fun member hmember => ?_
    obtain ⟨part, -, rfl⟩ := List.mem_map.mp hmember
    simp [isOwn_table]
  rw [arranged, hplain, List.nil_append]
  induction parts with
  | nil => exact ownSections.eq_1
  | cons part parts ih =>
    obtain ⟨hpart, hparts⟩ := List.forall_mem_cons.mp flat
    have hrest := ih hparts (List.filter_eq_nil_iff.mpr fun member hmember =>
      List.filter_eq_nil_iff.mp hplain member (List.mem_cons_of_mem _ hmember))
    have hmembers : plainOf part.2 ++ ownSections part.2 = part.2 := arranged_of_flat hpart
    rw [tables, List.map_cons, ← tables, ownSections, hmembers, hrest]

theorem sections_tables_nil (printed : Bool) :
    sections printRoom [] printed (tables []) = ⟨[], none⟩ :=
  sections_of_flat (List.forall_mem_nil _) printRoom [] printed

theorem opening_of_flat (flat : Flat members) (hname : name ≠ []) :
    opening name false members =
      (Printout.ofText (headerText false name)).andThen (lines members) := by
  have hplain : ((members.map (Prod.mk false)).filter (!·.1)).map (·.2) = members := by
    simp [List.filter_map, Function.comp_def]
  have hheaded : (!members.isEmpty || (members.map (Prod.mk false)).isEmpty) = true := by
    cases members <;> rfl
  have hname : name.isEmpty = false := by simpa using hname
  rw [opening, sorted_of_flat flat]
  simp only [hplain, hheaded, hname]
  rfl

theorem gap_eq (printed : Bool) : gap printed = ⟨if printed then ['\n'] else [], none⟩ := by
  cases printed <;> rfl

namespace Printout

theorem andThen_nil (first : Printout) : first.andThen ⟨[], none⟩ = first := by
  obtain ⟨text, fault | fault⟩ := first <;> simp [andThen]

end Printout

-- A document begins with its first section.
theorem print_tables (parts : Sections) :
    print (tables parts) = sections printRoom [] false (tables parts) := by
  have hsorted : sorted (tables parts) = .ok ((tables parts).map (true, ·)) := by
    induction parts with
    | nil => rfl
    | cons part parts ih =>
      simp only [tables, List.map_cons, sorted, isSection, bind, Except.bind] at ih ⊢
      rw [ih]
      rfl
  have hopening : opening [] false (tables parts) = ⟨[], none⟩ := by
    have hnone : (((tables parts).map (true, ·)).filter (!·.1)).map (·.2) = [] := by
      simp [List.filter_map, Function.comp_def]
    rw [opening, hsorted]
    simp only [hnone]
    rfl
  rw [print, hopening]
  exact Printout.nil_andThen _

-- The text of a section: an empty line if another section stands before it, its header, its lines.
def sectionText (printed : Bool) (part : List Char) (members : Dict Value) : List Char :=
  (if printed then ['\n'] else []) ++
    ('[' :: (keyChars part ++ [']']) ++ '\n' :: (lines members).text)

theorem sections_tables_cons {chars : List Char} (flat : Flat members) (printed : Bool)
    (parts : Sections) :
    sections printRoom [] printed (tables ((.ofChars chars, members) :: parts)) =
      Printout.andThen ⟨sectionText printed chars members, (lines members).fault⟩
        (sections printRoom [] true (tables parts)) := by
  obtain ⟨first, others, hkey, -⟩ := exists_keyChars_eq chars
  have hdotted : dotted [] (.ofChars chars) = .ofChars (keyChars chars) := keyPart_ofChars chars
  have hheader : headerText false (.ofChars (keyChars chars)) =
      .ofChars ('[' :: (keyChars chars ++ [']']) ++ ['\n']) := by
    simp [headerText, Text.ofChars, Text.ofString]
  have hopening : opening (.ofChars (keyChars chars)) false members =
      ⟨'[' :: (keyChars chars ++ [']']) ++ '\n' :: (lines members).text,
        (lines members).fault⟩ := by
    rw [opening_of_flat flat (by simp [hkey, Text.ofChars]), hheader, Printout.ofText_ofChars]
    simp [Printout.andThen]
  have hcons : tables ((.ofChars chars, members) :: parts) =
      (.ofChars chars, .table members) :: tables parts := rfl
  rw [hcons, sections, hdotted, hopening, sections_of_flat flat, Printout.andThen_nil, gap_eq]
  rfl

end CommandCompletion.Toml
