import CommandCompletion.Json.Reader
import CommandCompletion.Text.Hex
import Mathlib.Algebra.Group.Nat.Defs
import Mathlib.Data.List.GetD

namespace CommandCompletion

namespace Text

theorem ofDigits_append_singleton (base : Nat) (digits : List Nat) (digit : Nat) :
    Text.ofDigits base (digits ++ [digit]) = base * Text.ofDigits base digits + digit := by
  simp [Text.ofDigits, List.foldl_append]

theorem mem_hexDigits_of_mem_hex {c : Char} {width n : Nat} (h : c ∈ Text.hex width n) :
    c ∈ Text.hexDigits := by
  induction width generalizing n with
  | zero => cases h
  | succ width ih =>
    rcases List.mem_append.mp h with h | h
    · exact ih h
    · have hdigit : n % 16 < Text.hexDigits.length := Nat.mod_lt n (by decide)
      rw [List.mem_singleton.mp h, List.getD_eq_getElem _ _ hdigit]
      exact List.getElem_mem _

end Text

namespace Json

theorem hexDigit?_hexDigits {digit : Nat} (h : digit < 16) :
    hexDigit? (Text.hexDigits.getD digit '0') = some digit := by
  revert h
  revert digit
  decide

theorem hexValue?_append_singleton {digits : List Char} {c : Char} {value digit : Nat}
    (hdigits : hexValue? digits = some value) (hc : hexDigit? c = some digit) :
    hexValue? (digits ++ [c]) = some (16 * value + digit) := by
  obtain ⟨before, hbefore, rfl⟩ := Option.map_eq_some_iff.mp hdigits
  have hall : (digits ++ [c]).mapM hexDigit? = some (before ++ [digit]) := by
    rw [List.mapM_append, hbefore]
    simp [hc]
  rw [hexValue?, hall, Option.map_some, Text.ofDigits_append_singleton]

-- A number that is written with enough digits is read back.
theorem hexValue?_hex (width n : Nat) (h : n < 16 ^ width) :
    hexValue? (Text.hex width n) = some n := by
  induction width generalizing n with
  | zero =>
    obtain rfl : n = 0 := by simpa using h
    rfl
  | succ width ih =>
    have hquotient : n / 16 < 16 ^ width := by
      rw [Nat.div_lt_iff_lt_mul (by decide)]
      rwa [Nat.pow_succ] at h
    rw [Text.hex, hexValue?_append_singleton (ih _ hquotient)
      (hexDigit?_hexDigits (Nat.mod_lt n (by decide))), Nat.div_add_mod]

end Json

end CommandCompletion
