import CommandCompletion.Text
import Mathlib.Data.List.Basic

namespace CommandCompletion.Text

theorem exists_eq_ofChars {text : Text} (h : text.hasHalf = false) :
    ∃ chars, text = ofChars chars := by
  induction text with
  | nil => exact ⟨[], rfl⟩
  | cons c text ih =>
    cases c with
    | half index => cases h
    | char c =>
      obtain ⟨chars, rfl⟩ := ih h
      exact ⟨c :: chars, rfl⟩

theorem chars?_ofChars (chars : List Char) : chars? (ofChars chars) = some chars := by
  induction chars with
  | nil => rfl
  | cons c chars ih =>
    rw [chars?, ofChars, List.map_cons, List.mapM_cons, ← ofChars, ← chars?, ih]
    rfl

theorem chars?_eq_none {text : Text} (h : text.hasHalf) : text.chars? = none := by
  induction text with
  | nil => cases h
  | cons c text ih =>
    rw [chars?, List.mapM_cons]
    cases c with
    | half index => rfl
    | char c =>
      rw [← chars?, ih h]
      rfl

theorem hasHalf_ofChars (chars : List Char) : (ofChars chars).hasHalf = false := by
  simp [hasHalf, ofChars, CodePoint.isHalf]

theorem hasHalf_append (text other : Text) :
    hasHalf (text ++ other) = (text.hasHalf || other.hasHalf) :=
  List.any_append

theorem whole_ofChars (chars : List Char) : (ofChars chars).whole = ofChars chars := by
  rw [whole, ofChars, List.flatMap_map]
  exact List.flatMap_pure_eq_map _ _

-- A text without halves is whole already.
theorem whole_of_hasHalf {text : Text} (h : text.hasHalf = false) : text.whole = text := by
  obtain ⟨chars, rfl⟩ := exists_eq_ofChars h
  exact whole_ofChars chars

theorem hasHalf_whole (text : Text) : text.whole.hasHalf = false := by
  simp only [hasHalf, whole, List.any_eq_false, List.mem_flatMap]
  rintro c ⟨point, -, hc⟩
  cases point with
  | char c' =>
    obtain rfl := List.mem_singleton.mp hc
    exact Bool.false_ne_true
  | half index =>
    obtain rfl := List.eq_of_mem_replicate hc
    decide

end CommandCompletion.Text
