import CommandCompletion.Proofs.Data.Dict
import CommandCompletion.Proofs.Data.Result
import CommandCompletion.Proofs.Json.Document
import CommandCompletion.Proofs.Toml.Key
import CommandCompletion.Proofs.Toml.Number

namespace CommandCompletion

-- What a settings document gives back as it was: texts, truth values, whole numbers, and lists and
-- tables of such values.
inductive Value.IsStorable : Value → Prop
  | bool (b : Bool) : IsStorable (bool b)
  | int (n : Int) : IsStorable (int n)
  | text (s : Text) : IsStorable (text s)
  | list {items : List Value} (items_storable : ∀ item ∈ items, IsStorable item) :
    IsStorable (list items)
  | table {members : List (Text × Value)} (distinct : Dict.Distinct members)
    (members_storable : ∀ member ∈ members, IsStorable member.2) : IsStorable (table members)

attribute [simp] Value.IsStorable.bool Value.IsStorable.int Value.IsStorable.text

@[simp]
theorem Value.isStorable_list_iff {items : List Value} :
    (list items).IsStorable ↔ ∀ item ∈ items, item.IsStorable :=
  ⟨fun h => by cases h; assumption, .list⟩

@[simp]
theorem Value.isStorable_table_iff {members : List (Text × Value)} :
    (table members).IsStorable ↔ Dict.Distinct members ∧ ∀ member ∈ members, member.2.IsStorable :=
  ⟨fun h => by cases h; exact ⟨‹_›, ‹_›⟩, fun h => .table h.1 h.2⟩

namespace Toml

open Json (IsWhole exists_signed_eq isDigit isWhole_toDigits length_toDigits_le signed toList_toString)

variable {room level fuel : Nat} {printed rest blanks : List Char} {text : Text} {value : Value}
  {items : List Value} {members : Dict Value}

-- A value is not taken for blanks, for a comment, or for the end of a list.
def StartsValue (printed : List Char) : Prop :=
  ∃ c others, printed = c :: others ∧ c ∉ [' ', '\t', '\n', '#', ']']

-- A value is read back from its print, with this much room for values inside others.
structure ReadsBack (room : Nat) (printed : List Char) (value : Value) : Prop where
  starts : StartsValue printed
  oneLineEnd : '\r' ∉ printed
  scan : ∀ rest fuel, EndsValue rest → 2 * printed.length ≤ fuel →
    scanValue room (fuel + 1) (printed ++ rest) = .ok (value, rest)

theorem StartsValue.skipSpaces (h : StartsValue printed) (rest : List Char) :
    skipSpaces (printed ++ rest) = printed ++ rest := by
  obtain ⟨c, others, rfl, hc⟩ := h
  refine skipSpaces_cons ?_ _
  simp only [List.mem_cons, not_or] at hc
  simp [isSpace, hc]

-- Texts.

-- A text in quotes does not begin like one of several lines.
theorem scanQuoted?_quotedChars (chars : List Char) (hrest : EndsValue rest) :
    scanQuoted? (quotedChars chars ++ rest) = some (.ok (.ofChars chars, rest)) := by
  have hscan : scanBasic false .nothing (chars.flatMap escapedChar ++ '"' :: rest) =
      .ok (chars, rest) := scanBasic_escaped chars _
  obtain ⟨next, others, rfl, -, hnext⟩ := hrest.exists_ne ['"'] (by simp)
  simp only [quotedChars, List.cons_append, List.append_assoc, List.nil_append]
  unfold scanQuoted?
  split
  · next hlines =>
    rw [(List.cons.inj hlines).2, scanBasic.eq_def] at hscan
    simp only [Char.reduceEq, decide_false, Bool.false_and, Bool.false_eq_true, ↓reduceIte,
      reduceCtorEq] at hscan
    simp_all
  · next hplain =>
    rw [← (List.cons.inj hplain).2, hscan]
    rfl
  · next hhead => cases hhead
  · next hhead => cases hhead
  · next hother _ _ => exact (hother _ rfl).elim

theorem readsBack_text (room : Nat) (chars : List Char) :
    ReadsBack room (quotedChars chars) (.text (.ofChars chars)) := by
  refine ⟨⟨'"', _, rfl, by decide⟩, carriageReturn_notMem_quotedChars chars,
    fun rest fuel hrest hfuel => ?_⟩
  have hquoted := scanQuoted?_quotedChars chars hrest
  simp only [quotedChars, List.cons_append, List.append_assoc, List.nil_append] at hquoted ⊢
  rw [scanValue, scanSimple, hquoted]
  · rfl
  all_goals simp

-- Truth values.

theorem readsBack_bool (room : Nat) (b : Bool) :
    ReadsBack room (if b then "true".toList else "false".toList) (.bool b) := by
  cases b
  · exact ⟨⟨'f', _, rfl, by decide⟩, by decide, fun rest fuel _ _ => rfl⟩
  · exact ⟨⟨'t', _, rfl, by decide⟩, by decide, fun rest fuel _ _ => rfl⟩

-- Whole numbers.

theorem ne_of_isNumberStart {first c : Char} (h : first = '-' ∨ isDigit first)
    (hc : isDigit c = false ∧ c ≠ '-') : first ≠ c := by
  rintro rfl
  simp [hc] at h

theorem scanSimple_signed {n : Nat} (negative : Bool)
    (h : (Nat.toDigits 10 n).length ≤ Text.maxDigits) (hrest : EndsValue rest) :
    scanSimple (signed negative (Nat.toDigits 10 n) ++ rest) =
      .ok (.int (if negative then -n else n), rest) := by
  have hwhole := isWhole_toDigits n
  have hmoment := scanMoment?_signed negative hwhole.isDigit hrest
  have hnumber := scanNumber?_signed negative h hrest
  obtain ⟨first, others, hstart, hfirst⟩ := exists_signed_eq negative hwhole rest
  have ht : 't' ≠ first := (ne_of_isNumberStart hfirst (by decide)).symm
  have hf : 'f' ≠ first := (ne_of_isNumberStart hfirst (by decide)).symm
  have hquoted : scanQuoted? (first :: others) = none := by
    have hquote : first ≠ '"' := ne_of_isNumberStart hfirst (by decide)
    have hapostrophe : first ≠ '\'' := ne_of_isNumberStart hfirst (by decide)
    unfold scanQuoted?
    split <;> first | rfl | simp_all
  rw [hstart] at hmoment hnumber ⊢
  rw [scanSimple, hquoted]
  simp [hmoment, hnumber, ht, hf]

theorem readsBack_int (room : Nat) {n : Int} (h : Value.isLongNumber n = false) :
    ReadsBack room (toString n).toList (.int n) := by
  have hwhole := isWhole_toDigits n.natAbs
  rw [toList_toString]
  refine ⟨?_, ?_, fun rest fuel hrest _ => ?_⟩
  · obtain ⟨first, others, hstart, hfirst⟩ := exists_signed_eq (decide (n < 0)) hwhole []
    rw [List.append_nil] at hstart
    refine ⟨first, others, hstart, fun hmem => ?_⟩
    refine ne_of_isNumberStart hfirst ?_ rfl
    simp only [List.mem_cons, List.not_mem_nil, or_false] at hmem
    rcases hmem with rfl | rfl | rfl | rfl | rfl <;> decide
  · have hdigits : '\r' ∉ Nat.toDigits 10 n.natAbs := fun hmem =>
      absurd (hwhole.isDigit _ hmem) (by decide)
    cases decide (n < 0) <;> simp [signed, hdigits]
  · have hsimple := scanSimple_signed (decide (n < 0)) (length_toDigits_le h) hrest
    have hsize : (if decide (n < 0) then -(n.natAbs : Int) else n.natAbs) = n := by
      simp only [decide_eq_true_eq]
      omega
    obtain ⟨first, others, hstart, hfirst⟩ := exists_signed_eq (decide (n < 0)) hwhole rest
    rw [hstart] at hsimple ⊢
    unfold scanValue
    split
    · next hhead =>
      exact absurd (List.cons.inj hhead).1 (ne_of_isNumberStart hfirst (by decide))
    · next hhead =>
      exact absurd (List.cons.inj hhead).1 (ne_of_isNumberStart hfirst (by decide))
    · rw [hsimple, hsize]

-- Lists.

theorem skipComment_cons {c : Char} (h : c ≠ '#') (rest : List Char) :
    skipComment (c :: rest) = .ok (c :: rest) := by
  rw [skipComment]
  rintro _ ⟨⟩
  exact h rfl

theorem skipBetween_cons {c : Char} (hc : isSpaceOrLine c = false) (hcomment : c ≠ '#')
    (fuel : Nat) (rest : List Char) : skipBetween (fuel + 1) (c :: rest) = .ok (c :: rest) := by
  rw [skipBetween, List.dropWhile_cons_of_neg (by simp [hc]),
    skipComment_cons hcomment]
  simp [bind, Except.bind, pure, Except.pure]

-- Blanks and line ends are skipped up to what is not taken for them.
theorem skipFiller_append {c : Char} (blanks : List Char) (hblanks : ∀ c ∈ blanks, isSpaceOrLine c)
    (hc : isSpaceOrLine c = false) (hcomment : c ≠ '#') (rest : List Char) :
    skipFiller (blanks ++ c :: rest) = .ok (c :: rest) := by
  obtain ⟨fuel, hfuel⟩ : ∃ fuel, (blanks ++ c :: rest).length = fuel + 1 :=
    Nat.exists_eq_succ_of_ne_zero (by simp)
  rw [skipFiller, hfuel, skipBetween, List.dropWhile_append_of_pos hblanks,
    List.dropWhile_cons_of_neg (by simp [hc]),
    skipComment_cons hcomment]
  simp only [bind, Except.bind, skipBetween_cons hc hcomment]
  split <;> rfl

theorem StartsValue.skipFiller (h : StartsValue printed) (blanks : List Char)
    (hblanks : ∀ c ∈ blanks, isSpaceOrLine c) (rest : List Char) : skipFiller (blanks ++ (printed ++ rest)) = .ok (printed ++ rest) := by
  obtain ⟨c, others, rfl, hc⟩ := h
  simp only [List.mem_cons, not_or] at hc
  exact skipFiller_append blanks hblanks (by simp [isSpaceOrLine, isSpace, hc]) hc.2.2.2.1 _

-- The items of a list are read back from their lines, the blanks before the first left out.
structure ReadsItems (room : Nat) (body : List Char) (items : List Value) : Prop where
  starts : StartsValue body
  oneLineEnd : '\r' ∉ body
  scan : ∀ blanks rest fuel, (∀ c ∈ blanks, isSpaceOrLine c) → 2 * body.length ≤ fuel →
    scanItems room (fuel + 1) (body ++ (blanks ++ ']' :: rest)) = .ok (items, rest)

theorem StartsValue.append (h : StartsValue printed) (rest : List Char) :
    StartsValue (printed ++ rest) := by
  obtain ⟨c, others, rfl, hc⟩ := h
  exact ⟨c, others ++ rest, rfl, hc⟩

theorem ReadsItems.single (h : ReadsBack room printed value) :
    ReadsItems room (printed ++ [',', '\n']) [value] := by
  refine ⟨h.starts.append _, by simp [h.oneLineEnd], fun blanks rest fuel hblanks hfuel => ?_⟩
  rw [List.length_append, List.length_cons, List.length_singleton] at hfuel
  obtain ⟨fuel, rfl⟩ := Nat.exists_eq_succ_of_ne_zero (by omega : fuel ≠ 0)
  have hitem := h.scan (',' :: '\n' :: (blanks ++ ']' :: rest)) fuel (endsValue_cons (by decide) _)
    (by omega)
  have hcomma : skipFiller (',' :: '\n' :: (blanks ++ ']' :: rest)) =
      .ok (',' :: '\n' :: (blanks ++ ']' :: rest)) :=
    skipFiller_append [] nofun rfl (by decide) _
  have hclosing : skipFiller ('\n' :: (blanks ++ ']' :: rest)) = .ok (']' :: rest) :=
    skipFiller_append ('\n' :: blanks) (List.forall_mem_cons.mpr ⟨rfl, hblanks⟩) rfl
      (by decide) _
  rw [List.append_assoc, List.cons_append, List.singleton_append, scanItems, hitem]
  simp only [bind, Except.bind, hcomma, hclosing]
  rfl

theorem carriageReturn_notMem_blanks (hblanks : ∀ c ∈ blanks, isSpaceOrLine c) : '\r' ∉ blanks :=
  fun h => absurd (hblanks _ h) (by decide)

theorem ReadsItems.cons {body : List Char} (h : ReadsBack room printed value) (blanks : List Char)
    (hblanks : ∀ c ∈ blanks, isSpaceOrLine c) (hitems : ReadsItems room body items) :
    ReadsItems room (printed ++ ',' :: '\n' :: (blanks ++ body)) (value :: items) := by
  have hreturn := carriageReturn_notMem_blanks hblanks
  refine ⟨h.starts.append _, by simp [h.oneLineEnd, hreturn, hitems.oneLineEnd],
    fun behind rest fuel hbehind hfuel => ?_⟩
  simp only [List.length_append, List.length_cons] at hfuel
  obtain ⟨fuel, rfl⟩ := Nat.exists_eq_succ_of_ne_zero (by omega : fuel ≠ 0)
  have hitem := h.scan (',' :: '\n' :: (blanks ++ (body ++ (behind ++ ']' :: rest)))) fuel
    (endsValue_cons (by decide) _) (by omega)
  have hothers := hitems.scan behind rest fuel hbehind (by omega)
  have hcomma : skipFiller (',' :: '\n' :: (blanks ++ (body ++ (behind ++ ']' :: rest)))) =
      .ok (',' :: '\n' :: (blanks ++ (body ++ (behind ++ ']' :: rest)))) :=
    skipFiller_append [] nofun rfl (by decide) _
  have hnext : skipFiller ('\n' :: (blanks ++ (body ++ (behind ++ ']' :: rest)))) =
      .ok (body ++ (behind ++ ']' :: rest)) :=
    hitems.starts.skipFiller ('\n' :: blanks) (List.forall_mem_cons.mpr ⟨rfl, hblanks⟩) _
  simp only [List.append_assoc, List.cons_append]
  rw [scanItems, hitem]
  simp only [bind, Except.bind, hcomma, hnext]
  split
  · next hhead =>
    obtain ⟨c, others, rfl, hc⟩ := hitems.starts
    cases hhead
    simp at hc
  · rw [hothers]
    rfl

theorem ReadsItems.list {body : List Char} (h : ReadsItems (room - 2) body items) (hroom : 2 ≤ room)
    (blanks behind : List Char) (hblanks : ∀ c ∈ blanks, isSpaceOrLine c)
    (hbehind : ∀ c ∈ behind, isSpaceOrLine c) :
    ReadsBack room ('[' :: '\n' :: (blanks ++ body ++ behind ++ [']'])) (.list items) := by
  have hreturn := carriageReturn_notMem_blanks hblanks
  have hreturn' := carriageReturn_notMem_blanks hbehind
  refine ⟨⟨'[', _, rfl, by decide⟩, by simp [h.oneLineEnd, hreturn, hreturn'],
    fun rest fuel _ hfuel => ?_⟩
  simp only [List.length_append, List.length_cons] at hfuel
  obtain ⟨fuel, rfl⟩ := Nat.exists_eq_succ_of_ne_zero (by omega : fuel ≠ 0)
  have hitems := h.scan behind rest fuel hbehind (by omega)
  have hfirst : skipFiller ('\n' :: (blanks ++ (body ++ (behind ++ ']' :: rest)))) =
      .ok (body ++ (behind ++ ']' :: rest)) :=
    h.starts.skipFiller ('\n' :: blanks) (List.forall_mem_cons.mpr ⟨rfl, hblanks⟩) _
  simp only [List.append_assoc, List.cons_append, List.nil_append]
  rw [scanValue, if_neg (not_lt.mpr hroom)]
  simp only [bind, Except.bind, hfirst]
  split
  · next hhead =>
    obtain ⟨c, others, rfl, hc⟩ := h.starts
    cases hhead
    simp at hc
  · rw [hitems]
    rfl

theorem readsBack_nil_list (hroom : 2 ≤ room) : ReadsBack room ['[', ']'] (.list []) := by
  refine ⟨⟨'[', _, rfl, by decide⟩, by decide, fun rest fuel _ _ => ?_⟩
  have hclosing : skipFiller (']' :: rest) = .ok (']' :: rest) :=
    skipFiller_append [] nofun rfl (by decide) _
  rw [List.cons_append, List.singleton_append, scanValue, if_neg (not_lt.mpr hroom)]
  simp only [bind, Except.bind, hclosing]
  rfl

-- Tables.

theorem addMember_of_notMem {name : Text} (h : name ∉ members.keys) (value : Value) :
    addMember name value members = some (members ++ [(name, value)]) := by
  have hinsert := Dict.insert_append_of_notMem h [] value
  rw [List.append_nil] at hinsert
  rw [addMember, Dict.contains, Dict.get?_eq_none_iff.mpr h, hinsert]
  rfl

-- Only names that are there are frozen.
def FrozenIn (members : Dict Value) (frozen : List (List Text)) : Prop :=
  ∀ key ∈ frozen, ∃ name ∈ members.keys, key = [name]

theorem FrozenIn.append {frozen : List (List Text)} (h : FrozenIn members frozen) (name : Text)
    (value : Value) :
    FrozenIn (members ++ [(name, value)])
      (if isContainer value then [name] :: frozen else frozen) := by
  have hold : FrozenIn (members ++ [(name, value)]) frozen := by
    intro key hkey
    obtain ⟨other, hother, rfl⟩ := h key hkey
    exact ⟨other, by simp [Dict.keys] at hother ⊢; exact .inl hother, rfl⟩
  split
  · exact List.forall_mem_cons.mpr ⟨⟨name, by simp [Dict.keys], rfl⟩, hold⟩
  · exact hold

theorem addInline_of_notMem {name : Text} {frozen : List (List Text)} (h : name ∉ members.keys)
    (hfrozen : FrozenIn members frozen) (value : Value) (rest : List Char) :
    addInline frozen [name] value members rest = .ok (members ++ [(name, value)]) := by
  have hfree : isFrozen frozen [name] = false := by
    rw [isFrozen, List.any_eq_false]
    intro key hkey
    obtain ⟨other, hother, rfl⟩ := hfrozen key hkey
    have hne : other ≠ name := by
      rintro rfl
      exact h hother
    simp [hne]
  have hmissing : members.contains name = false := by
    rw [Dict.contains, Dict.get?_eq_none_iff.mpr h]
    rfl
  have hlast : List.getLastD [name] (Text.ofString "") = name := rfl
  simp only [addInline, hfree, hlast, List.dropLast_singleton, changeAt, hmissing,
    addMember_of_notMem h]
  rfl

-- The members of an inline table are read back from their print.
structure ReadsMembers (room : Nat) (body : List Char) (members : Dict Value) : Prop where
  starts : ∃ first others, body = first :: others ∧ (isBareKeyChar first ∨ first = '"')
  oneLineEnd : '\r' ∉ body
  scan : ∀ frozen before rest fuel, Dict.Distinct (before ++ members) → FrozenIn before frozen →
    2 * body.length ≤ fuel →
    scanMembers room (fuel + 1) frozen before (body ++ ' ' :: '\x7d' :: rest) =
      .ok (before ++ members, rest)

theorem ReadsMembers.single {name : List Char} (h : ReadsBack room printed value) :
    ReadsMembers room (keyChars name ++ ' ' :: '=' :: ' ' :: printed) [(.ofChars name, value)] := by
  obtain ⟨first, others, hname, hfirst⟩ := exists_keyChars_eq name
  refine ⟨⟨first, _, by rw [hname]; rfl, hfirst⟩,
    by simp [carriageReturn_notMem_keyChars, h.oneLineEnd],
    fun frozen before rest fuel distinct hfrozen hfuel => ?_⟩
  simp only [List.length_append, List.length_cons] at hfuel
  obtain ⟨fuel, rfl⟩ := Nat.exists_eq_succ_of_ne_zero (by omega : fuel ≠ 0)
  have hkey := scanKeyEquals_keyChars name (h.starts.skipSpaces (' ' :: '\x7d' :: rest))
  have hvalue := h.scan (' ' :: '\x7d' :: rest) fuel (endsValue_cons (by decide) _) (by omega)
  have hadd := addInline_of_notMem distinct.notMem_keys hfrozen value (' ' :: '\x7d' :: rest)
  simp only [List.append_assoc, List.cons_append]
  rw [scanMembers, hkey]
  simp only [bind, Except.bind, hvalue, hadd]
  rfl

theorem ReadsMembers.cons {name body : List Char} (h : ReadsBack room printed value)
    (hmembers : ReadsMembers room body members) :
    ReadsMembers room (keyChars name ++ ' ' :: '=' :: ' ' :: (printed ++ ',' :: ' ' :: body))
      ((.ofChars name, value) :: members) := by
  obtain ⟨first, others, hname, hfirst⟩ := exists_keyChars_eq name
  refine ⟨⟨first, _, by rw [hname]; rfl, hfirst⟩,
    by simp [carriageReturn_notMem_keyChars, h.oneLineEnd, hmembers.oneLineEnd],
    fun frozen before rest fuel distinct hfrozen hfuel => ?_⟩
  simp only [List.length_append, List.length_cons] at hfuel
  obtain ⟨fuel, rfl⟩ := Nat.exists_eq_succ_of_ne_zero (by omega : fuel ≠ 0)
  have hkey := scanKeyEquals_keyChars name
    (h.starts.skipSpaces (',' :: ' ' :: (body ++ ' ' :: '\x7d' :: rest)))
  have hvalue := h.scan (',' :: ' ' :: (body ++ ' ' :: '\x7d' :: rest)) fuel
    (endsValue_cons (by decide) _) (by omega)
  have hadd := addInline_of_notMem distinct.notMem_keys hfrozen value
    (',' :: ' ' :: (body ++ ' ' :: '\x7d' :: rest))
  have hspaces : skipSpaces (' ' :: (body ++ ' ' :: '\x7d' :: rest)) =
      body ++ ' ' :: '\x7d' :: rest := by
    obtain ⟨first, others, rfl, hfirst⟩ := hmembers.starts
    exact skipSpaces_cons (ne_of_isKeyStart hfirst).1 _
  have hcomma : skipSpaces (',' :: ' ' :: (body ++ ' ' :: '\x7d' :: rest)) =
      ',' :: ' ' :: (body ++ ' ' :: '\x7d' :: rest) := rfl
  rw [List.append_cons] at distinct
  have hothers := hmembers.scan _ _ rest fuel distinct (hfrozen.append (.ofChars name) value)
    (by omega)
  simp only [List.append_assoc, List.cons_append]
  rw [scanMembers, hkey]
  simp only [bind, Except.bind, hvalue, hadd, hcomma, hspaces, hothers, List.append_assoc,
    List.cons_append, List.nil_append]

theorem ReadsMembers.table {body : List Char} (h : ReadsMembers (room - 3) body members)
    (hroom : 3 ≤ room) (distinct : Dict.Distinct members) :
    ReadsBack room ('\x7b' :: ' ' :: (body ++ [' ', '\x7d'])) (.table members) := by
  refine ⟨⟨'\x7b', _, rfl, by decide⟩, by simp [h.oneLineEnd], fun rest fuel _ hfuel => ?_⟩
  simp only [List.length_append, List.length_cons] at hfuel
  obtain ⟨fuel, rfl⟩ := Nat.exists_eq_succ_of_ne_zero (by omega : fuel ≠ 0)
  have hmembers := h.scan [] [] rest fuel distinct nofun (by omega)
  obtain ⟨first, others, rfl, hfirst⟩ := h.starts
  have hspaces : skipSpaces (' ' :: (first :: others ++ ' ' :: '\x7d' :: rest)) =
      first :: others ++ ' ' :: '\x7d' :: rest :=
    skipSpaces_cons (ne_of_isKeyStart hfirst).1 _
  simp only [List.append_assoc, List.cons_append, List.nil_append] at hmembers hspaces ⊢
  rw [scanValue, if_neg (not_lt.mpr hroom), hspaces]
  split
  · next hhead =>
    cases hhead
    rcases hfirst with hfirst | hfirst <;> cases hfirst
  · rw [hmembers]
    rfl

theorem readsBack_nil_table (hroom : 3 ≤ room) :
    ReadsBack room ['\x7b', '\x7d'] (.table []) := by
  refine ⟨⟨'\x7b', _, rfl, by decide⟩, by decide, fun rest fuel _ _ => ?_⟩
  rw [List.cons_append, List.singleton_append, scanValue, if_neg (not_lt.mpr hroom)]
  rfl

-- Values of any kind.

-- A value is read back from wherever it is printed on a line, with as much room as it takes.
def IsReadBack (value : Value) : Prop :=
  ∀ level room text, inline level value = .ok text → text.hasHalf = false →
    roomFor value ≤ room → ∃ printed, text = .ofChars printed ∧ ReadsBack room printed value

def indentChars (level : Nat) : List Char :=
  List.replicate (4 * level) ' '

theorem indentation_eq (level : Nat) : indentation level = .ofChars (indentChars level) := by
  simp [indentation, indentChars, Text.ofChars]

theorem isSpaceOrLine_indentChars (level : Nat) : ∀ c ∈ indentChars level, isSpaceOrLine c := by
  intro c h
  rw [List.eq_of_mem_replicate h]
  rfl

theorem exists_readsItems (h : ∀ item ∈ items, IsReadBack item) (hitems : items ≠ [])
    (hinline : inlineItems level items = .ok text) (hwhole : text.hasHalf = false)
    (hroom : roomForItems items ≤ room) :
    ∃ body, text = .ofChars (indentChars (level + 1) ++ body) ∧ ReadsItems room body items := by
  induction items generalizing text with
  | nil => exact absurd rfl hitems
  | cons item items ih =>
    obtain ⟨hitem, hothers⟩ := List.forall_mem_cons.mp h
    rw [roomForItems] at hroom
    obtain ⟨hfirstRoom, hothersRoom⟩ := Nat.max_le.mp hroom
    rw [inlineItems] at hinline
    obtain ⟨first, hfirst, hinline⟩ := bind_eq_ok_iff.mp hinline
    obtain ⟨others, hinlineOthers, hinline⟩ := bind_eq_ok_iff.mp hinline
    cases hinline
    simp only [Text.hasHalf_append, Bool.or_eq_false_iff] at hwhole
    obtain ⟨printed, rfl, hback⟩ := hitem _ _ _ hfirst hwhole.1.1.2 hfirstRoom
    cases items with
    | nil =>
      cases hinlineOthers
      refine ⟨_, ?_, .single hback⟩
      rw [indentation_eq]
      simp [Text.ofChars, Text.ofString]
    | cons next items =>
      obtain ⟨body, rfl, hbody⟩ :=
        ih hothers (List.cons_ne_nil _ _) hinlineOthers hwhole.2 hothersRoom
      refine ⟨_, ?_, .cons hback _ (isSpaceOrLine_indentChars (level + 1)) hbody⟩
      rw [indentation_eq]
      simp [Text.ofChars, Text.ofString]

theorem exists_readsMembers (h : ∀ member ∈ members, IsReadBack member.2) (hmembers : members ≠ [])
    (hinline : inlineMembers members = .ok text) (hwhole : text.hasHalf = false)
    (hroom : roomForMembers members ≤ room) :
    ∃ body, text = .ofChars (',' :: ' ' :: body) ∧ ReadsMembers room body members := by
  induction members generalizing text with
  | nil => exact absurd rfl hmembers
  | cons member members ih =>
    obtain ⟨hmember, hothers⟩ := List.forall_mem_cons.mp h
    obtain ⟨name, value⟩ := member
    rw [roomForMembers] at hroom
    obtain ⟨hfirstRoom, hothersRoom⟩ := Nat.max_le.mp hroom
    rw [inlineMembers] at hinline
    obtain ⟨first, hfirst, hinline⟩ := bind_eq_ok_iff.mp hinline
    obtain ⟨others, hinlineOthers, hinline⟩ := bind_eq_ok_iff.mp hinline
    cases hinline
    simp only [Text.hasHalf_append, Bool.or_eq_false_iff] at hwhole
    obtain ⟨printed, rfl, hback⟩ := hmember _ _ _ hfirst hwhole.1.2 hfirstRoom
    obtain ⟨name, rfl⟩ := Text.exists_eq_ofChars ((hasHalf_keyPart name).symm.trans hwhole.1.1.1.2)
    cases members with
    | nil =>
      cases hinlineOthers
      refine ⟨_, ?_, .single hback⟩
      rw [keyPart_ofChars]
      simp [Text.ofChars, Text.ofString]
    | cons next members =>
      obtain ⟨body, rfl, hbody⟩ :=
        ih hothers (List.cons_ne_nil _ _) hinlineOthers hwhole.2 hothersRoom
      refine ⟨_, ?_, .cons hback hbody⟩
      rw [keyPart_ofChars]
      simp [Text.ofChars, Text.ofString]

theorem isReadBack_bool (b : Bool) : IsReadBack (.bool b) := by
  rintro level room text ⟨⟩ - -
  refine ⟨_, ?_, readsBack_bool room b⟩
  cases b <;> rfl

theorem isReadBack_int (n : Int) : IsReadBack (.int n) := by
  rintro level room text hinline - -
  rw [inline] at hinline
  split at hinline
  · cases hinline
  · next hlong =>
    cases hinline
    exact ⟨_, rfl, readsBack_int room (by simpa using hlong)⟩

theorem isReadBack_text (s : Text) : IsReadBack (.text s) := by
  rintro level room text hinline hwhole -
  rw [inline] at hinline
  cases hinline
  rw [hasHalf_quotedText] at hwhole
  obtain ⟨chars, rfl⟩ := Text.exists_eq_ofChars hwhole
  exact ⟨_, quotedText_ofChars chars, readsBack_text room chars⟩

theorem isReadBack_list (h : ∀ item ∈ items, IsReadBack item) : IsReadBack (.list items) := by
  intro level room text hinline hwhole hroom
  rw [roomFor] at hroom
  cases items with
  | nil =>
    rw [inline] at hinline
    cases hinline
    exact ⟨_, rfl, readsBack_nil_list (by omega)⟩
  | cons item items =>
    rw [inline] at hinline
    · obtain ⟨others, hitems, hinline⟩ := bind_eq_ok_iff.mp hinline
      cases hinline
      simp only [Text.hasHalf_append, Bool.or_eq_false_iff] at hwhole
      obtain ⟨body, rfl, hbody⟩ := exists_readsItems h (List.cons_ne_nil _ _) hitems
        hwhole.1.1.2 (by omega : _ ≤ room - 2)
      refine ⟨_, ?_, hbody.list (by omega) _ _ (isSpaceOrLine_indentChars (level + 1))
        (isSpaceOrLine_indentChars level)⟩
      rw [indentation_eq]
      simp [Text.ofChars, Text.ofString]
    · exact List.cons_ne_nil _ _

-- The members of a table stand behind its brace as they would behind another member.
theorem exists_inlineMembers (h : inline level (.table (member :: members)) = .ok text) :
    ∃ body, inlineMembers (member :: members) = .ok (Text.ofString ", " ++ body) ∧
      text = Text.ofString "\x7b " ++ body ++ Text.ofString " \x7d" := by
  obtain ⟨name, value⟩ := member
  rw [inline] at h
  obtain ⟨first, hfirst, h⟩ := bind_eq_ok_iff.mp h
  obtain ⟨others, hothers, h⟩ := bind_eq_ok_iff.mp h
  cases h
  refine ⟨keyPart name ++ Text.ofString " = " ++ first ++ others, ?_, ?_⟩
  · rw [inlineMembers, hfirst, hothers]
    simp only [List.append_assoc]
    rfl
  · simp only [List.append_assoc]

theorem isReadBack_table (distinct : Dict.Distinct members)
    (h : ∀ member ∈ members, IsReadBack member.2) : IsReadBack (.table members) := by
  intro level room text hinline hwhole hroom
  rw [roomFor] at hroom
  cases members with
  | nil =>
    rw [inline] at hinline
    cases hinline
    exact ⟨_, rfl, readsBack_nil_table (by omega)⟩
  | cons member members =>
    obtain ⟨inner, hmembers, rfl⟩ := exists_inlineMembers hinline
    simp only [Text.hasHalf_append, Bool.or_eq_false_iff] at hwhole
    have hwhole' : (Text.ofString ", " ++ inner).hasHalf = false := by
      rw [Text.hasHalf_append, hwhole.1.2]
      rfl
    obtain ⟨body, hbody, hreads⟩ := exists_readsMembers h (List.cons_ne_nil _ _) hmembers
      hwhole' (by omega : _ ≤ room - 3)
    refine ⟨_, ?_, hreads.table (by omega) distinct⟩
    have hinner : inner = .ofChars body := by
      simpa [Text.ofChars, Text.ofString] using hbody
    rw [hinner]
    simp [Text.ofChars, Text.ofString]

theorem isReadBack_of_isStorable (storable : value.IsStorable) : IsReadBack value := by
  induction storable with
  | bool b => exact isReadBack_bool b
  | int n => exact isReadBack_int n
  | text s => exact isReadBack_text s
  | list _ ih => exact isReadBack_list ih
  | table distinct _ ih => exact isReadBack_table distinct ih

end Toml

end CommandCompletion
