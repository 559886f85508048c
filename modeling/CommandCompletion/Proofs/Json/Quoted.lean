import CommandCompletion.Json.Printer
import CommandCompletion.Json.Reader
import CommandCompletion.Proofs.Data.Result
import CommandCompletion.Proofs.Json.Hex
import Mathlib.Data.Char
import Mathlib.Data.List.Chain

namespace CommandCompletion

namespace CodePoint

-- The units that come first and second in a pair.
def isHigh (unit : Nat) : Bool :=
  0xD800 ≤ unit && unit < 0xDC00

def isLow (unit : Nat) : Bool :=
  0xDC00 ≤ unit && unit < 0xE000

-- The code units of a code point.
def units (c : CodePoint) : List Nat :=
  if c.toNat < 0x10000 then [c.toNat]
  else [0xD800 + (c.toNat - 0x10000) / 0x400, 0xDC00 + (c.toNat - 0x10000) % 0x400]

-- Two halves that a reader takes for one character.
def isPair (first second : CodePoint) : Bool :=
  isHigh first.toNat && isLow second.toNat

theorem toNat_char (c : Char) :
    c.toNat < firstHalf ∨ firstHalf + 0x800 ≤ c.toNat ∧ c.toNat < 0x110000 := by
  have h : c.toNat < 0xd800 ∨ 0xdfff < c.toNat ∧ c.toNat < 0x110000 := c.valid
  simp only [firstHalf]
  omega

theorem toNat_lt (c : CodePoint) : c.toNat < 0x110000 := by
  cases c with
  | char c =>
    have := toNat_char c
    simp only [toNat, firstHalf] at *
    omega
  | half index =>
    have := index.isLt
    simp only [toNat, firstHalf]
    omega

theorem ofNat_toNat (c : CodePoint) : ofNat c.toNat = c := by
  cases c with
  | char c =>
    have hrange : ¬(firstHalf ≤ c.toNat ∧ c.toNat < firstHalf + 0x800) := by
      have := toNat_char c
      omega
    have hvalid : c.toNat.isValidChar := c.valid
    rw [toNat, ofNat, dif_neg hrange, if_pos hvalid, Char.ofNat_toNat]
  | half index =>
    have hrange : firstHalf ≤ firstHalf + index.val ∧
        firstHalf + index.val < firstHalf + 0x800 := by
      have := index.isLt
      omega
    rw [toNat, ofNat, dif_pos hrange]
    exact congrArg half (Fin.ext (Nat.add_sub_cancel_left ..))

-- Beyond the code points all numbers give the replacement character.
theorem toNat_ofNat (n : Nat) :
    (ofNat n).toNat = n ∨ 0x110000 ≤ n ∧ (ofNat n).toNat = 0xfffd := by
  unfold ofNat
  split
  · left
    simp only [toNat]
    omega
  · next hrange =>
    split
    · next hvalid =>
      left
      rw [toNat, Char.ofNat, dif_pos hvalid]
      rfl
    · next hvalid =>
      refine .inr ⟨?_, rfl⟩
      have hbeyond : ¬(n < 0xd800 ∨ 0xdfff < n ∧ n < 0x110000) := hvalid
      simp only [firstHalf] at hrange
      omega

theorem isHigh_toNat_ofNat (n : Nat) : isHigh (ofNat n).toNat = isHigh n := by
  rcases toNat_ofNat n with h | ⟨hn, h⟩
  · rw [h]
  · simp only [h, isHigh]
    grind

theorem isLow_toNat_ofNat (n : Nat) : isLow (ofNat n).toNat = isLow n := by
  rcases toNat_ofNat n with h | ⟨hn, h⟩
  · rw [h]
  · simp only [h, isLow]
    grind

end CodePoint

namespace Text

-- A text without a pair of halves that together are one character.
def IsJoined (text : Text) : Prop :=
  text.IsChain fun first second => CodePoint.isPair first second = false

-- The text that a reader makes of the code units of a text.
def rejoined (text : Text) : Text :=
  Json.joinUnits (text.flatMap (·.units))

end Text

namespace Json

open CodePoint

variable {high low unit : Nat} {units : List Nat} {rest : List Char}

theorem joinUnits_pair (hhigh : isHigh high) (hlow : isLow low) (units : List Nat) :
    joinUnits (high :: low :: units) =
      .ofNat (0x10000 + (high - 0xD800) * 0x400 + (low - 0xDC00)) :: joinUnits units := by
  simp_all [joinUnits, isHigh, isLow]

theorem joinUnits_cons (h : ∀ low ∈ units.head?, (isHigh unit && isLow low) = false) :
    joinUnits (unit :: units) = .ofNat unit :: joinUnits units := by
  cases units with
  | nil => rfl
  | cons low units =>
    have := h low rfl
    rw [joinUnits, if_neg (by simp_all [isHigh, isLow])]

-- The first character of a text is the first unit, or is made of two of them.
theorem head_joinUnits {c : CodePoint} (h : c ∈ (joinUnits (unit :: units)).head?) :
    c = .ofNat unit ∨ isLow c.toNat = false := by
  cases units with
  | nil => exact .inl (Option.some.inj h).symm
  | cons low units =>
    rw [joinUnits] at h
    split at h
    · right
      rw [← Option.some.inj h, isLow_toNat_ofNat, isLow]
      grind
    · exact .inl (Option.some.inj h).symm

-- No pair is left when code units are joined.
theorem isJoined_joinUnits (units : List Nat) : (joinUnits units).IsJoined := by
  fun_induction joinUnits units with
  | case1 => exact .nil
  | case2 unit => exact .singleton _
  | case3 high low rest hpair ih =>
    refine List.isChain_cons.mpr ⟨fun second _ => ?_, ih⟩
    have hwide : isHigh (0x10000 + (high - 0xD800) * 0x400 + (low - 0xDC00)) = false := by
      simp only [isHigh]
      grind
    rw [isPair, isHigh_toNat_ofNat, hwide, Bool.false_and]
  | case4 high low rest hpair ih =>
    refine List.isChain_cons.mpr ⟨fun second hsecond => ?_, ih⟩
    rw [isPair, isHigh_toNat_ofNat]
    rcases head_joinUnits hsecond with rfl | hlow
    · rw [isLow_toNat_ofNat]
      simp_all [isHigh, isLow]
    · rw [hlow, Bool.and_false]

-- The units of a text begin with that of its first character, or with a high one.
theorem head_units {text : Text} {unit : Nat} (h : unit ∈ (text.flatMap (·.units)).head?) :
    ∃ c ∈ text.head?, unit = c.toNat ∨ isLow unit = false := by
  cases text with
  | nil => cases h
  | cons c text =>
    refine ⟨c, rfl, ?_⟩
    rw [List.flatMap_cons, CodePoint.units] at h
    split at h
    · exact .inl (Option.some.inj h).symm
    · have := c.toNat_lt
      right
      rw [← Option.some.inj h, isLow]
      grind

-- A text without pairs is what its code units are joined to.
theorem rejoined_of_isJoined {text : Text} (h : text.IsJoined) : text.rejoined = text := by
  induction text with
  | nil => rfl
  | cons c text ih =>
    obtain ⟨hnext, htext⟩ := List.isChain_cons.mp h
    have ih : joinUnits (text.flatMap (·.units)) = text := ih htext
    rw [Text.rejoined, List.flatMap_cons, CodePoint.units]
    split
    · rw [List.singleton_append, joinUnits_cons, ofNat_toNat, ih]
      intro low hlow
      obtain ⟨next, hhead, rfl | hlow⟩ := head_units hlow
      · exact hnext next hhead
      · rw [hlow, Bool.and_false]
    · next hwide =>
      have hbound := c.toNat_lt
      have hhigh : isHigh (0xD800 + (c.toNat - 0x10000) / 0x400) := by
        simp only [isHigh, Bool.and_eq_true, decide_eq_true_eq]
        omega
      have hlow : isLow (0xDC00 + (c.toNat - 0x10000) % 0x400) := by
        simp only [isLow, Bool.and_eq_true, decide_eq_true_eq]
        omega
      have hjoin : 0x10000 + (0xD800 + (c.toNat - 0x10000) / 0x400 - 0xD800) * 0x400 +
          (0xDC00 + (c.toNat - 0x10000) % 0x400 - 0xDC00) = c.toNat := by
        omega
      rw [List.cons_append, List.singleton_append, joinUnits_pair hhigh hlow, ih, hjoin,
        ofNat_toNat]

theorem isHigh_char (c : Char) : isHigh c.toNat = false := by
  have := CodePoint.toNat_char c
  simp only [firstHalf] at this
  simp only [isHigh, Bool.and_eq_false_iff, decide_eq_false_iff_not]
  omega

-- Characters make no pairs.
theorem isJoined_ofChars (chars : List Char) : (Text.ofChars chars).IsJoined := by
  induction chars with
  | nil => exact .nil
  | cons c chars ih =>
    refine List.isChain_cons.mpr ⟨fun _ _ => ?_, ih⟩
    rw [isPair, CodePoint.toNat, isHigh_char, Bool.false_and]

-- The units that are read before others.
def before (units : List Nat) (result : Except Stop (List Nat × List Char)) :
    Except Stop (List Nat × List Char) :=
  result.map fun (others, rest) => (units ++ others, rest)

theorem before_cons (unit : Nat) (units : List Nat)
    (result : Except Stop (List Nat × List Char)) :
    before (unit :: units) result = before [unit] (before units result) := by
  cases result <;> rfl

theorem scanUnits_unitEscape {unit : Nat} (h : unit < 0x10000) (opening : List Char) (e : Char)
    (rest : List Char) :
    scanUnits opening (unitEscape unit ++ e :: rest) =
      before [unit] (scanUnits opening (e :: rest)) := by
  obtain ⟨d₁, d₂, d₃, d₄, hdigits⟩ : ∃ d₁ d₂ d₃ d₄, Text.hex 4 unit = [d₁, d₂, d₃, d₄] :=
    ⟨_, _, _, _, rfl⟩
  have hvalue := hexValue?_hex 4 unit h
  rw [hdigits] at hvalue
  simp only [unitEscape, hdigits, List.cons_append, List.nil_append]
  rw [scanUnits]
  simp only [hvalue]
  rfl

-- A backslash and a letter.
theorem scanUnits_letter {letter c : Char} (hu : letter ≠ 'u') (h : escaped? letter = some c)
    (opening rest : List Char) :
    scanUnits opening ('\\' :: letter :: rest) = before [c.toNat] (scanUnits opening rest) := by
  rw [scanUnits.eq_def]
  simp [h]
  rfl

theorem scanUnits_plain {c : Char} (hquote : c ≠ '"') (hslash : c ≠ '\\') (h : 32 ≤ c.toNat)
    (opening rest : List Char) :
    scanUnits opening (c :: rest) = before [c.toNat] (scanUnits opening rest) := by
  rw [scanUnits.eq_def]
  simp [hslash, not_lt.mpr h]
  rfl

-- The escape of a character is read as its units. Something always follows it: a closing quote, if
-- nothing else.
theorem scanUnits_escapedChar (c : Char) (opening : List Char) (e : Char) (rest : List Char) :
    scanUnits opening (escapedChar c ++ e :: rest) =
      before (CodePoint.char c).units (scanUnits opening (e :: rest)) := by
  have hnarrow (h : c.toNat < 0x10000) : (CodePoint.char c).units = [c.toNat] := if_pos h
  unfold escapedChar
  split
  · next h =>
    rcases (by simpa using h : c = '"' ∨ c = '\\') with rfl | rfl <;>
      exact scanUnits_letter (by decide) rfl opening (e :: rest)
  split
  · next h => subst h; exact scanUnits_letter (by decide) rfl opening (e :: rest)
  split
  · next h => subst h; exact scanUnits_letter (by decide) rfl opening (e :: rest)
  split
  · next h => subst h; exact scanUnits_letter (by decide) rfl opening (e :: rest)
  split
  · next h => subst h; exact scanUnits_letter (by decide) rfl opening (e :: rest)
  split
  · next h => subst h; exact scanUnits_letter (by decide) rfl opening (e :: rest)
  split
  · next h _ _ _ _ _ hplain =>
    obtain ⟨hquote, hslash⟩ : c ≠ '"' ∧ c ≠ '\\' := by simpa using h
    obtain ⟨hlow, hhigh⟩ : 32 ≤ c.toNat ∧ c.toNat ≤ 126 := by simpa using hplain
    rw [hnarrow (by omega)]
    exact scanUnits_plain hquote hslash hlow opening (e :: rest)
  split
  · next h =>
    rw [hnarrow h]
    exact scanUnits_unitEscape h opening e rest
  · next h =>
    have hbound := CodePoint.toNat_lt c
    have hunits : (CodePoint.char c).units =
        [0xD800 + (c.toNat - 0x10000) / 0x400, 0xDC00 + (c.toNat - 0x10000) % 0x400] := if_neg h
    simp only [CodePoint.toNat] at hbound
    rw [hunits, List.append_assoc, before_cons]
    exact (scanUnits_unitEscape (by omega) opening _ _).trans
      (congrArg (before _) (scanUnits_unitEscape (by omega) opening e rest))

theorem scanUnits_escaped (c : CodePoint) (opening : List Char) (e : Char) (rest : List Char) :
    scanUnits opening (escaped c ++ e :: rest) = before c.units (scanUnits opening (e :: rest)) := by
  cases c with
  | char c => exact scanUnits_escapedChar c opening e rest
  | half index =>
    have hbound : (CodePoint.half index).toNat < 0x10000 := by
      have := index.isLt
      simp only [CodePoint.toNat, CodePoint.firstHalf]
      omega
    rw [CodePoint.units, if_pos hbound]
    exact scanUnits_unitEscape hbound opening e rest

-- A text between quotes is read back, and nothing behind the closing quote is touched.
theorem scanUnits_quoted (text : Text) (opening rest : List Char) :
    scanUnits opening (text.flatMap escaped ++ '"' :: rest) = .ok (text.flatMap (·.units), rest) := by
  induction text with
  | nil =>
    rw [List.flatMap_nil, List.nil_append, scanUnits.eq_def]
    rfl
  | cons c text ih =>
    obtain ⟨e, others, he⟩ : ∃ e others, text.flatMap escaped ++ '"' :: rest = e :: others :=
      List.exists_cons_of_ne_nil (by simp)
    rw [List.flatMap_cons, List.append_assoc, he, scanUnits_escaped, ← he, ih]
    rfl

theorem scanText_quotedText (text : Text) (rest : List Char) :
    ∃ others, quotedText text ++ rest = '"' :: others ∧ scanText others = .ok (text.rejoined, rest) := by
  refine ⟨text.flatMap escaped ++ '"' :: rest, by simp [quotedText], ?_⟩
  rw [scanText, scanUnits_quoted]
  rfl

end Json

end CommandCompletion
