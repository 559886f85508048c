import CommandCompletion.Proofs.Toml.Quoted
import CommandCompletion.Toml.Reader

namespace CommandCompletion.Toml

variable {c : Char} {name text : List Char} {key : List (List Char)}

theorem skipSpaces_cons (h : isSpace c = false) (rest : List Char) :
    skipSpaces (c :: rest) = c :: rest :=
  List.dropWhile_cons_of_neg (by simp [h])

theorem ne_of_isKeyStart {first : Char} (h : isBareKeyChar first ∨ first = '"') :
    isSpace first = false ∧ first ≠ '\n' ∧ first ≠ '[' ∧ isKeyStart first = true := by
  rcases h with h | rfl
  · refine ⟨?_, ?_, ?_, by simp [isKeyStart, h]⟩
    · rw [isSpace, Bool.or_eq_false_iff, decide_eq_false_iff_not, decide_eq_false_iff_not]
      constructor <;> (rintro rfl; cases h)
    · rintro rfl
      cases h
    · rintro rfl
      cases h
  · decide

theorem keyChars_ne_nil (name : List Char) : keyChars name ≠ [] := by
  obtain ⟨first, others, hname, -⟩ := exists_keyChars_eq name
  rw [hname]
  exact List.cons_ne_nil _ _

-- The names of a key with a dot between each two of them.
def dottedChars : List (List Char) → List Char
  | [] => []
  | [name] => keyChars name
  | name :: next :: key => keyChars name ++ '.' :: dottedChars (next :: key)

theorem exists_dottedChars_eq (name : List Char) (key : List (List Char)) :
    ∃ first others, dottedChars (name :: key) = first :: others ∧
      (isBareKeyChar first ∨ first = '"') := by
  obtain ⟨first, others, hname, hfirst⟩ := exists_keyChars_eq name
  cases key with
  | nil => exact ⟨first, others, hname, hfirst⟩
  | cons next key => exact ⟨first, _, by rw [dottedChars, hname]; rfl, hfirst⟩

theorem dottedChars_eq_nil_iff : dottedChars key = [] ↔ key = [] := by
  cases key with
  | nil => simp [dottedChars]
  | cons name key =>
    obtain ⟨first, others, hkey, -⟩ := exists_dottedChars_eq name key
    simp [hkey]

theorem dottedChars_append_singleton (key : List (List Char)) (name : List Char) :
    dottedChars (key ++ [name]) =
      if key = [] then keyChars name else dottedChars key ++ '.' :: keyChars name := by
  induction key with
  | nil => rfl
  | cons first key ih =>
    cases key with
    | nil => rfl
    | cons next key =>
      rw [if_neg (List.cons_ne_nil _ _)] at ih ⊢
      rw [List.cons_append] at ih
      rw [List.cons_append, List.cons_append, dottedChars, ih, dottedChars]
      simp

theorem carriageReturn_notMem_dottedChars (key : List (List Char)) : '\r' ∉ dottedChars key := by
  fun_induction dottedChars key with
  | case1 => exact List.not_mem_nil
  | case2 name => exact carriageReturn_notMem_keyChars name
  | case3 name next key ih => simp [carriageReturn_notMem_keyChars, ih]

theorem length_le_length_dottedChars (key : List (List Char)) :
    key.length ≤ (dottedChars key).length := by
  fun_induction dottedChars key with
  | case1 => exact Nat.le_refl _
  | case2 name => exact List.length_pos_of_ne_nil (keyChars_ne_nil name)
  | case3 name next key ih =>
    simp only [List.length_append, List.length_cons] at ih ⊢
    omega

-- The parts of a key are read back up to a character that is no part of bare keys.
theorem scanKeyParts_dottedChars {fuel : Nat} (hkey : key ≠ []) (hfuel : key.length ≤ fuel)
    (hc : isBareKeyChar c = false) (hdot : (skipSpaces (c :: text)).head? ≠ some '.') :
    scanKeyParts fuel (dottedChars key ++ c :: text) =
      .ok (key.map .ofChars, skipSpaces (c :: text)) := by
  fun_induction dottedChars key generalizing fuel with
  | case1 => exact absurd rfl hkey
  | case2 name =>
    obtain ⟨fuel, rfl⟩ := Nat.exists_eq_add_of_le' hfuel
    rw [List.length_singleton, scanKeyParts, scanKeyPart_keyChars name hc]
    simp only [bind, Except.bind]
    split
    · next hhead => simp [hhead] at hdot
    · rfl
  | case3 name next key ih =>
    obtain ⟨fuel, rfl⟩ := Nat.exists_eq_add_of_le' (Nat.lt_of_lt_of_le (Nat.succ_pos _) hfuel)
    have hrest := ih (List.cons_ne_nil _ _) (Nat.le_of_succ_le_succ hfuel)
    have hspaces : skipSpaces (dottedChars (next :: key) ++ c :: text) =
        dottedChars (next :: key) ++ c :: text := by
      obtain ⟨first, others, hnext, hfirst⟩ := exists_dottedChars_eq next key
      rw [hnext, List.cons_append]
      exact skipSpaces_cons (ne_of_isKeyStart hfirst).1 _
    have hpoint : skipSpaces ('.' :: (dottedChars (next :: key) ++ c :: text)) =
        '.' :: (dottedChars (next :: key) ++ c :: text) := rfl
    rw [List.append_assoc, List.cons_append, scanKeyParts, scanKeyPart_keyChars name rfl]
    simp only [bind, Except.bind, hpoint, hspaces, hrest]
    rfl

theorem scanKey_dottedChars (hkey : key ≠ []) (hc : isBareKeyChar c = false)
    (hdot : (skipSpaces (c :: text)).head? ≠ some '.') :
    scanKey (dottedChars key ++ c :: text) = .ok (key.map .ofChars, skipSpaces (c :: text)) := by
  refine scanKeyParts_dottedChars hkey ?_ hc hdot
  have hlength := length_le_length_dottedChars key
  rw [List.length_append]
  omega

-- A name and the equals sign behind it, in front of a value.
theorem scanKeyEquals_keyChars (name : List Char) (htext : skipSpaces text = text) :
    scanKeyEquals (keyChars name ++ ' ' :: '=' :: ' ' :: text) = .ok ([.ofChars name], text) := by
  have hequals : skipSpaces (' ' :: '=' :: ' ' :: text) = '=' :: ' ' :: text := rfl
  have hvalue : skipSpaces (' ' :: text) = text := htext
  have hkey : scanKey (keyChars name ++ ' ' :: '=' :: ' ' :: text) =
      .ok ([.ofChars name], skipSpaces (' ' :: '=' :: ' ' :: text)) :=
    scanKey_dottedChars (List.cons_ne_nil name []) rfl (by simp [hequals])
  rw [scanKeyEquals, hkey, hequals]
  simp only [bind, Except.bind, hvalue]
  rfl

end CommandCompletion.Toml
