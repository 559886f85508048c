import CommandCompletion.Proofs.Data.Dict
import CommandCompletion.Proofs.Data.Result
import CommandCompletion.Proofs.Json.Bounds
import CommandCompletion.Proofs.Json.Document

namespace CommandCompletion

namespace Value

-- A value as a document gives it. No half in it stands in front of one that it makes a pair with,
-- and no number has more digits than are written.
inductive IsDecoded : Value → Prop
  | null : IsDecoded null
  | bool (b : Bool) : IsDecoded (bool b)
  | int {n : Int} (short : isLongNumber n = false) : IsDecoded (int n)
  | double (d : Double) : IsDecoded (double d)
  | text {s : Text} (joined : s.IsJoined) : IsDecoded (text s)
  | list {items : List Value} (items_decoded : ∀ item ∈ items, IsDecoded item) :
    IsDecoded (list items)
  | table {members : List (Text × Value)} (distinct : Dict.Distinct members)
    (joined : ∀ member ∈ members, member.1.IsJoined)
    (members_decoded : ∀ member ∈ members, IsDecoded member.2) : IsDecoded (table members)

mutual

-- Whether a floating-point number stands anywhere in a value.
def hasDouble : Value → Bool
  | double _ => true
  | list items => anyDouble items
  | table members => memberDouble members
  | _ => false

def anyDouble : List Value → Bool
  | [] => false
  | item :: items => item.hasDouble || anyDouble items

def memberDouble : List (Text × Value) → Bool
  | [] => false
  | (_, value) :: rest => value.hasDouble || memberDouble rest

end

theorem anyDouble_eq_false_iff {items : List Value} :
    anyDouble items = false ↔ ∀ item ∈ items, item.hasDouble = false := by
  induction items with
  | nil => simp [anyDouble]
  | cons item items ih => simp [anyDouble, ih]

theorem memberDouble_eq_false_iff {members : List (Text × Value)} :
    memberDouble members = false ↔ ∀ member ∈ members, member.2.hasDouble = false := by
  induction members with
  | nil => simp [memberDouble]
  | cons member members ih => simp [memberDouble, ih]

theorem anyLong_eq_false_iff {items : List Value} :
    anyLong items = false ↔ ∀ item ∈ items, item.hasLong = false := by
  induction items with
  | nil => simp [anyLong]
  | cons item items ih => simp [anyLong, ih]

theorem memberLong_eq_false_iff {members : List (Text × Value)} :
    memberLong members = false ↔ ∀ member ∈ members, member.2.hasLong = false := by
  induction members with
  | nil => simp [memberLong]
  | cons member members ih => simp [memberLong, ih]

theorem echoItems_eq_self {items : List Value} (h : ∀ item ∈ items, item.echo = item) :
    echoItems items = items := by
  induction items with
  | nil => rfl
  | cons item items ih =>
    obtain ⟨hitem, hitems⟩ := List.forall_mem_cons.mp h
    rw [echoItems, hitem, ih hitems]

theorem echoMembers_of_isJoined {members : List (Text × Value)}
    (joined : ∀ member ∈ members, member.1.IsJoined) :
    echoMembers members = members.map fun member => (member.1, member.2.echo) := by
  induction members with
  | nil => rfl
  | cons member members ih =>
    obtain ⟨hname, hnames⟩ := List.forall_mem_cons.mp joined
    rw [echoMembers, Json.rejoined_of_isJoined hname, ih hnames, List.map_cons]

theorem echo_table {members : List (Text × Value)} (distinct : Dict.Distinct members)
    (joined : ∀ member ∈ members, member.1.IsJoined) :
    (table members).echo = table (members.map fun member => (member.1, member.2.echo)) := by
  have hkeys : Dict.Distinct (members.map fun member => (member.1, member.2.echo)) := by
    rw [Dict.Distinct, Dict.keys_map_snd members fun member => member.2.echo]
    exact distinct
  rw [echo, echoMembers_of_isJoined joined, Dict.ofList_of_distinct hkeys]

theorem lt_pow_of_le {n count limit : Nat} (h : n < Nat.pow 10 count) (hle : count ≤ limit) :
    n < Nat.pow 10 limit :=
  Nat.lt_of_lt_of_le h (Nat.pow_le_pow_right (by decide) hle)

-- A number is written if its digits are few.
theorem isLongNumber_of_lt {n : Int} {count : Nat} (h : n.natAbs < Nat.pow 10 count)
    (few : count ≤ Text.maxDigits) : isLongNumber n = false := by
  rw [isLongNumber, decide_eq_false_iff_not, Nat.not_le]
  exact lt_pow_of_le h few

namespace IsDecoded

variable {v : Value}

-- What was read is read again from its print, unless numbers in it are rounded.
theorem echo_eq (h : v.IsDecoded) (exact : v.hasDouble = false) : v.echo = v := by
  induction h with
  | null | bool | int => rfl
  | double => cases exact
  | text joined => rw [echo, Json.rejoined_of_isJoined joined]
  | list _ ih =>
    rw [hasDouble, anyDouble_eq_false_iff] at exact
    rw [echo, echoItems_eq_self fun item hitem => ih item hitem (exact item hitem)]
  | @table members distinct joined _ ih =>
    rw [hasDouble, memberDouble_eq_false_iff] at exact
    have hmembers : members.map (fun member => (member.1, member.2.echo)) = members :=
      (List.map_congr_left fun member hmember =>
        congrArg (Prod.mk member.1) (ih member hmember (exact member hmember))).trans
          (List.map_id members)
    rw [echo_table distinct joined, hmembers]

theorem hasLong (h : v.IsDecoded) : v.hasLong = false := by
  induction h with
  | int short => rwa [Value.hasLong]
  | list _ ih => rwa [Value.hasLong, anyLong_eq_false_iff]
  | table _ _ _ ih => rwa [Value.hasLong, memberLong_eq_false_iff]
  | null | bool | double | text => rfl

end IsDecoded

end Value

namespace Json

open Value (IsDecoded)

variable {text rest : List Char} {v : Value}

theorem ofDigits_lt {digits : List Nat} (h : ∀ d ∈ digits, d < 10) :
    Text.ofDigits 10 digits < Nat.pow 10 digits.length := by
  induction digits using List.reverseRecOn with
  | nil => decide
  | append_singleton digits d ih =>
    obtain ⟨hdigits, hd⟩ := List.forall_mem_append.mp h
    have hvalue := ih hdigits
    have hdigit := hd d (List.mem_singleton.mpr rfl)
    rw [Text.ofDigits_append_singleton, List.length_append, List.length_singleton, Nat.pow_eq,
      Nat.pow_succ]
    rw [Nat.pow_eq] at hvalue
    omega

theorem isLongNumber_ofDigits {digits : List Char} (hdigits : ∀ c ∈ digits, isDigit c)
    (few : digits.length ≤ Text.maxDigits) (negative : Bool) :
    Value.isLongNumber (if negative then -(Text.ofDigits 10 (digitsOf digits) : Int)
      else Text.ofDigits 10 (digitsOf digits)) = false := by
  have hsize : Text.ofDigits 10 (digitsOf digits) < Nat.pow 10 digits.length := by
    have hlength : (digitsOf digits).length = digits.length := List.length_map _
    rw [← hlength]
    refine ofDigits_lt fun d hd => ?_
    obtain ⟨c, hc, rfl⟩ := List.mem_map.mp hd
    have hdigit := hdigits c hc
    simp only [isDigit, Bool.and_eq_true, decide_eq_true_eq] at hdigit
    have hnine : c.toNat ≤ '9'.toNat := hdigit.2
    have hvalues : '9'.toNat = 57 ∧ '0'.toNat = 48 := ⟨rfl, rfl⟩
    omega
  refine Value.isLongNumber_of_lt ?_ few
  cases negative with
  | true =>
    rw [if_pos rfl, Int.natAbs_neg]
    exact hsize
  | false => exact hsize

theorem isDecoded_of_scanNumber (h : scanNumber text = .ok (v, rest)) : v.IsDecoded := by
  unfold scanNumber at h
  split at h
  next start _ =>
    extract_lets whole at h
    obtain ⟨-, digits⟩ : whole <+: start ∧ ∀ c ∈ whole, isDigit c := wholeDigits rfl
    clear_value whole
    dsimp only at h
    split at h
    · cases h
    · split at h
      · split at h
        · cases h
        · next few =>
          cases h
          exact .int (isLongNumber_ofDigits digits (not_lt.mp few) _)
      · cases h
        exact .double _

theorem isDecoded_of_scanWord (h : scanWord text = .ok (v, rest)) : v.IsDecoded := by
  unfold scanWord at h
  split at h
  · next word value hfind =>
    cases h
    have hwords : ∀ pair ∈ fixedWords, pair.2.IsDecoded := by
      simp only [fixedWords, List.forall_mem_cons]
      exact ⟨.null, .bool _, .bool _, .double _, .double _, .double _, List.forall_mem_nil _⟩
    exact hwords _ (List.mem_of_find?_eq_some hfind)
  · exact isDecoded_of_scanNumber h

theorem isJoined_of_scanText {s : Text} (h : scanText text = .ok (s, rest)) : s.IsJoined := by
  obtain ⟨⟨units, rest⟩, -, he⟩ := map_eq_ok_iff.mp h
  cases he
  exact isJoined_joinUnits units

-- What one more step of fuel reads, from what is read with less: a list or table holds what was
-- read before it was closed.
section

variable {room fuel : Nat} {items : List Value} {members : List (Text × Value)}
  (hvalue : ∀ {room text v rest}, scanValue room fuel text = .ok (v, rest) → v.IsDecoded)
  (hitems : ∀ {room text items rest}, scanItems room fuel text = .ok (items, rest) →
    ∀ item ∈ items, item.IsDecoded)
  (hmembers : ∀ {room text members rest}, scanMembers room fuel text = .ok (members, rest) →
    ∀ member ∈ members, member.1.IsJoined ∧ member.2.IsDecoded)

include hitems hmembers in
theorem isDecoded_of_scanValue_succ (h : scanValue room (fuel + 1) text = .ok (v, rest)) :
    v.IsDecoded := by
  unfold scanValue at h
  split at h
  · obtain ⟨⟨s, rest⟩, hs, he⟩ := map_eq_ok_iff.mp h
    cases he
    exact .text (isJoined_of_scanText hs)
  · split at h
    · cases h
    · split at h
      · cases h
        exact .table .nil (List.forall_mem_nil _) (List.forall_mem_nil _)
      · obtain ⟨⟨members, rest⟩, hscan, he⟩ := map_eq_ok_iff.mp h
        cases he
        have hall := fun member hmember =>
          hmembers hscan member (Dict.mem_of_mem_ofList hmember)
        exact .table (Dict.distinct_ofList members) (fun member hmember =>
          (hall member hmember).1) fun member hmember => (hall member hmember).2
  · split at h
    · cases h
    · split at h
      · cases h
        exact .list (List.forall_mem_nil _)
      · obtain ⟨⟨items, rest⟩, hscan, he⟩ := map_eq_ok_iff.mp h
        cases he
        exact .list (hitems hscan)
  · exact isDecoded_of_scanWord h

include hvalue hitems in
theorem isDecoded_of_scanItems_succ (h : scanItems room (fuel + 1) text = .ok (items, rest)) :
    ∀ item ∈ items, item.IsDecoded := by
  unfold scanItems at h
  obtain ⟨⟨item, rest⟩, hitem, h⟩ := bind_eq_ok_iff.mp h
  dsimp only at h
  split at h
  · cases h
    exact List.forall_mem_singleton.mpr (hvalue hitem)
  · obtain ⟨⟨others, rest⟩, hothers, h⟩ := bind_eq_ok_iff.mp h
    cases h
    exact List.forall_mem_cons.mpr ⟨hvalue hitem, hitems hothers⟩
  · cases h

include hvalue hmembers in
theorem isDecoded_of_scanMembers_succ
    (h : scanMembers room (fuel + 1) text = .ok (members, rest)) :
    ∀ member ∈ members, member.1.IsJoined ∧ member.2.IsDecoded := by
  unfold scanMembers at h
  split at h
  · obtain ⟨⟨name, rest⟩, hname, h⟩ := bind_eq_ok_iff.mp h
    dsimp only at h
    split at h
    · obtain ⟨⟨value, rest⟩, hscan, h⟩ := bind_eq_ok_iff.mp h
      have hmember := And.intro (isJoined_of_scanText hname) (hvalue hscan)
      dsimp only at h
      split at h
      · cases h
        exact List.forall_mem_singleton.mpr hmember
      · obtain ⟨⟨others, rest⟩, hothers, h⟩ := bind_eq_ok_iff.mp h
        cases h
        exact List.forall_mem_cons.mpr ⟨hmember, hmembers hothers⟩
      · cases h
    · cases h
  · cases h

end

theorem isDecoded_of_scan (fuel : Nat) :
    (∀ {room text v rest}, scanValue room fuel text = .ok (v, rest) → v.IsDecoded) ∧
    (∀ {room text items rest}, scanItems room fuel text = .ok (items, rest) →
      ∀ item ∈ items, item.IsDecoded) ∧
    (∀ {room text members rest}, scanMembers room fuel text = .ok (members, rest) →
      ∀ member ∈ members, member.1.IsJoined ∧ member.2.IsDecoded) := by
  induction fuel with
  | zero => refine ⟨?_, ?_, ?_⟩ <;> (intro _ _ _ _ h; cases h)
  | succ fuel ih =>
    obtain ⟨ihValue, ihItems, ihMembers⟩ := ih
    exact ⟨isDecoded_of_scanValue_succ ihItems ihMembers,
      isDecoded_of_scanItems_succ ihValue ihItems,
      isDecoded_of_scanMembers_succ ihValue ihMembers⟩

theorem isDecoded_of_read (h : read text = .ok v) : v.IsDecoded := by
  unfold read readWithin at h
  split at h
  · next value hscan =>
    cases h
    unfold scanDocument at hscan
    split at hscan
    · cases hscan
    · obtain ⟨⟨value, rest⟩, hvalue, hend⟩ := bind_eq_ok_iff.mp hscan
      dsimp only at hend
      split at hend
      · cases hend
        exact (isDecoded_of_scan _).1 hvalue
      · cases hend
  all_goals cases h

end Json

end CommandCompletion
