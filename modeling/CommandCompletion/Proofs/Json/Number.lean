import CommandCompletion.Json.Printer
import CommandCompletion.Json.Reader
import Mathlib.Data.List.TakeWhile

namespace CommandCompletion.Json

variable {digits rest : List Char} {n : Nat}

-- The digits of a whole number: a zero in front stands alone.
def IsWhole (digits : List Char) : Prop :=
  digits = ['0'] ∨ digits ≠ [] ∧ digits.head? ≠ some '0' ∧ ∀ c ∈ digits, isDigit c

-- What follows digits that are all read.
def EndsDigits (rest : List Char) : Prop :=
  ∀ c ∈ rest.head?, isDigit c = false

-- What follows a number that is all read.
def EndsNumber (rest : List Char) : Prop :=
  ∀ c ∈ rest.head?, isDigit c = false ∧ c ≠ '.' ∧ c ≠ 'e' ∧ c ≠ 'E'

theorem EndsNumber.endsDigits (h : EndsNumber rest) : EndsDigits rest :=
  fun c hc => (h c hc).1

theorem takeWhile_isDigit (hdigits : ∀ c ∈ digits, isDigit c) (hrest : EndsDigits rest) :
    (digits ++ rest).takeWhile isDigit = digits := by
  rw [List.takeWhile_append_of_pos hdigits]
  cases rest with
  | nil => simp
  | cons c rest => rw [List.takeWhile_cons_of_neg (by simp [hrest c rfl]), List.append_nil]

theorem dropWhile_isDigit (hdigits : ∀ c ∈ digits, isDigit c) (hrest : EndsDigits rest) :
    (digits ++ rest).dropWhile isDigit = rest := by
  rw [List.dropWhile_append_of_pos hdigits]
  cases rest with
  | nil => rfl
  | cons c rest => rw [List.dropWhile_cons_of_neg (by simp [hrest c rfl])]

-- Digits written in front of a number's other parts are taken for the whole part.
theorem whole_append (h : IsWhole digits) (hrest : EndsDigits rest) :
    (match digits ++ rest with
      | '0' :: _ => ['0']
      | _ => (digits ++ rest).takeWhile isDigit) = digits := by
  rcases h with rfl | ⟨hne, hzero, hdigits⟩
  · rfl
  · split
    · next hhead =>
      obtain ⟨first, others, rfl⟩ := List.exists_cons_of_ne_nil hne
      cases hhead
      exact absurd rfl hzero
    · exact takeWhile_isDigit hdigits hrest

-- A sign in front of a number.
def signed (negative : Bool) (digits : List Char) : List Char :=
  if negative then '-' :: digits else digits

theorem IsWhole.ne_nil (h : IsWhole digits) : digits ≠ [] := by
  rcases h with rfl | ⟨hne, -⟩
  · exact List.cons_ne_nil _ _
  · exact hne

theorem IsWhole.isDigit (h : IsWhole digits) : ∀ c ∈ digits, isDigit c := by
  rcases h with rfl | ⟨-, -, h⟩
  · exact List.forall_mem_singleton.mpr rfl
  · exact h

theorem exists_signed_eq (negative : Bool) (h : IsWhole digits) (rest : List Char) :
    ∃ c others, signed negative digits ++ rest = c :: others ∧ (c = '-' ∨ isDigit c) := by
  obtain ⟨first, others, rfl⟩ := List.exists_cons_of_ne_nil h.ne_nil
  cases negative with
  | true => exact ⟨'-', _, rfl, .inl rfl⟩
  | false => exact ⟨first, _, rfl, .inr (h.isDigit first List.mem_cons_self)⟩

-- What the reader makes of the parts of a number.
def numberOf (negative : Bool) (whole : List Char) (rest : List Char) :
    Except Stop (Value × List Char) :=
  let (fraction, rest) := scanFraction rest
  let (exponent, rest) := scanExponent rest
  if fraction.isEmpty && exponent.isNone then
    if Text.maxDigits < whole.length then .error .longNumber
    else
      let size : Int := Text.ofDigits 10 (digitsOf whole)
      .ok (.int (if negative then -size else size), rest)
  else .ok (.double (doubleOf negative whole fraction exponent), rest)

theorem scanNumber_signed (negative : Bool) (h : IsWhole digits) (hrest : EndsDigits rest) :
    scanNumber (signed negative digits ++ rest) = numberOf negative digits rest := by
  unfold scanNumber
  split
  next _ start hsign =>
    obtain ⟨rfl, rfl⟩ : negative = _ ∧ digits ++ rest = start := by
      cases negative with
      | true => exact Prod.mk.inj hsign
      | false =>
        split at hsign
        · next hhead =>
          obtain ⟨first, others, rfl⟩ := List.exists_cons_of_ne_nil h.ne_nil
          cases hhead
          exact absurd (h.isDigit '-' List.mem_cons_self) (by decide)
        · exact Prod.mk.inj hsign
    extract_lets whole
    have hwhole : whole = digits := whole_append h hrest
    clear_value whole
    subst hwhole
    dsimp only
    rw [if_neg (by simp [h.ne_nil]), List.drop_left]
    rfl

theorem scanFraction_of_ne (h : ∀ c ∈ rest.head?, c ≠ '.') : scanFraction rest = ([], rest) := by
  unfold scanFraction
  split
  · exact absurd rfl (h '.' rfl)
  · rfl

theorem scanFraction_point (hne : digits ≠ []) (hdigits : ∀ c ∈ digits, isDigit c)
    (hrest : EndsDigits rest) : scanFraction ('.' :: (digits ++ rest)) = (digits, rest) := by
  rw [scanFraction, takeWhile_isDigit hdigits hrest, dropWhile_isDigit hdigits hrest]
  simp [hne]

theorem scanExponent_of_ne (h : ∀ c ∈ rest.head?, c ≠ 'e' ∧ c ≠ 'E') :
    scanExponent rest = (none, rest) := by
  cases rest with
  | nil => rfl
  | cons c rest => simp [scanExponent, h c rfl]

theorem scanExponent_signed (negative : Bool) (hne : digits ≠ [])
    (hdigits : ∀ c ∈ digits, isDigit c) (hrest : EndsDigits rest) :
    scanExponent ('e' :: (if negative then '-' else '+') :: (digits ++ rest)) =
      (some (negative, digits), rest) := by
  have htake := takeWhile_isDigit hdigits hrest
  have hdrop := dropWhile_isDigit hdigits hrest
  cases negative <;> simp [scanExponent, htake, hdrop, hne]

-- A number with a fraction or an exponent, in its parts.
structure Decimal where
  whole : List Char
  fraction : List Char
  exponent : Option (Bool × List Char)
  isWhole : IsWhole whole
  isDigit_fraction : ∀ c ∈ fraction, isDigit c
  isDigit_exponent : ∀ power ∈ exponent, power.2 ≠ [] ∧ ∀ c ∈ power.2, isDigit c
  broken : fraction ≠ [] ∨ exponent ≠ none

namespace Decimal

def fractionText (d : Decimal) : List Char :=
  if d.fraction = [] then [] else '.' :: d.fraction

def exponentText (d : Decimal) : List Char :=
  match d.exponent with
  | none => []
  | some (negative, digits) => 'e' :: (if negative then '-' else '+') :: digits

def text (d : Decimal) : List Char :=
  d.whole ++ (d.fractionText ++ d.exponentText)

variable (d : Decimal)

theorem endsDigits_exponentText (hrest : EndsDigits rest) : EndsDigits (d.exponentText ++ rest) := by
  unfold exponentText
  split
  · exact hrest
  · rintro c hc
    obtain rfl : c = 'e' := (Option.some.inj hc).symm
    rfl

theorem endsDigits_fractionText (hrest : EndsDigits rest) :
    EndsDigits (d.fractionText ++ d.exponentText ++ rest) := by
  unfold fractionText
  split
  · exact d.endsDigits_exponentText hrest
  · rintro c hc
    obtain rfl : c = '.' := (Option.some.inj hc).symm
    rfl

theorem scanExponent_exponentText (hrest : EndsNumber rest) :
    scanExponent (d.exponentText ++ rest) = (d.exponent, rest) := by
  unfold exponentText
  split
  · next h =>
    rw [h, List.nil_append, scanExponent_of_ne fun c hc => (hrest c hc).2.2]
  · next negative digits h =>
    obtain ⟨hne, hdigits⟩ := d.isDigit_exponent _ h
    rw [h, List.cons_append, List.cons_append, scanExponent_signed _ hne hdigits hrest.endsDigits]

theorem scanFraction_fractionText (hrest : EndsNumber rest) :
    scanFraction (d.fractionText ++ (d.exponentText ++ rest)) =
      (d.fraction, d.exponentText ++ rest) := by
  unfold fractionText
  split
  · next h =>
    rw [h, List.nil_append, scanFraction_of_ne]
    unfold exponentText
    split
    · exact fun c hc => (hrest c hc).2.1
    · rintro c hc
      obtain rfl : c = 'e' := (Option.some.inj hc).symm
      decide
  · next h =>
    exact scanFraction_point h d.isDigit_fraction (d.endsDigits_exponentText hrest.endsDigits)

-- A number written in its parts is read as a double, whatever follows it.
theorem scanNumber_text (negative : Bool) (hrest : EndsNumber rest) :
    scanNumber (signed negative d.whole ++ (d.fractionText ++ d.exponentText ++ rest)) =
      .ok (.double (doubleOf negative d.whole d.fraction d.exponent), rest) := by
  rw [scanNumber_signed negative d.isWhole (d.endsDigits_fractionText hrest.endsDigits), numberOf,
    List.append_assoc, d.scanFraction_fractionText hrest]
  dsimp only
  rw [d.scanExponent_exponentText hrest]
  dsimp only
  rw [if_neg]
  rcases d.broken with h | h <;> simp [h]

end Decimal

theorem isDigit_of_mem_toDigits {c : Char} (h : c ∈ Nat.toDigits 10 n) : isDigit c :=
  (Bool.and_comm ..).trans ((Bool.and_comm ..).trans
    (Nat.isDigit_of_mem_toDigits (by decide) (by decide) h))

-- The first digit of a positive number is no zero.
theorem head?_toDigits (h : n ≠ 0) : (Nat.toDigits 10 n).head? ≠ some '0' := by
  induction n using Nat.strongRecOn with
  | ind n ih =>
    rw [Nat.toDigits_eq_if (by decide)]
    split
    · next hsmall =>
      clear ih
      revert h
      revert n
      decide
    · rw [List.head?_append, Option.or_of_isSome (List.isSome_head?.mpr Nat.toDigits_ne_nil)]
      exact ih _ (by omega) (by omega)

theorem isWhole_toDigits (n : Nat) : IsWhole (Nat.toDigits 10 n) := by
  by_cases h : n = 0
  · subst h
    exact .inl rfl
  · exact .inr ⟨Nat.toDigits_ne_nil, head?_toDigits h, fun c hc => isDigit_of_mem_toDigits hc⟩

theorem ofDigits_toDigits (n : Nat) : Text.ofDigits 10 (digitsOf (Nat.toDigits 10 n)) = n := by
  rw [Text.ofDigits, digitsOf, List.foldl_map]
  exact Nat.ofDigitChars_toDigits (by decide) (by decide)

-- A number below a power of ten has no more digits than the power has zeros.
theorem length_toDigits_of_lt {limit : Nat} (hlimit : 0 < limit) (h : n < Nat.pow 10 limit) :
    (Nat.toDigits 10 n).length ≤ limit :=
  (Nat.length_toDigits_le_iff (by decide) hlimit).mpr h

theorem length_toDigits_le {n : Int} (h : Value.isLongNumber n = false) :
    (Nat.toDigits 10 n.natAbs).length ≤ Text.maxDigits := by
  rw [Value.isLongNumber, decide_eq_false_iff_not, Nat.not_le] at h
  exact length_toDigits_of_lt (by decide) h

theorem scanNumber_toDigits (negative : Bool) (h : (Nat.toDigits 10 n).length ≤ Text.maxDigits)
    (hrest : EndsNumber rest) :
    scanNumber (signed negative (Nat.toDigits 10 n) ++ rest) =
      .ok (.int (if negative then -n else n), rest) := by
  rw [scanNumber_signed negative (isWhole_toDigits n) hrest.endsDigits, numberOf,
    scanFraction_of_ne fun c hc => (hrest c hc).2.1]
  dsimp only
  rw [scanExponent_of_ne fun c hc => (hrest c hc).2.2]
  dsimp only
  rw [if_pos (by rfl), if_neg (not_lt.mpr h), ofDigits_toDigits]

-- No fixed word begins like a number.
theorem scanWord_signed (negative : Bool) (h : IsWhole digits) (rest : List Char) :
    scanWord (signed negative digits ++ rest) = scanNumber (signed negative digits ++ rest) := by
  obtain ⟨first, others, rfl⟩ := List.exists_cons_of_ne_nil h.ne_nil
  have hfirst (c : Char) (hc : isDigit c = false) : c ≠ first := by
    rintro rfl
    exact absurd (h.isDigit c List.mem_cons_self) (by simp [hc])
  rw [scanWord, List.find?_eq_none.mpr]
  cases negative <;>
    simp [fixedWords, signed, hfirst 'n' rfl, hfirst 't' rfl, hfirst 'f' rfl, hfirst 'N' rfl,
      hfirst 'I' rfl, hfirst '-' rfl]

end CommandCompletion.Json
