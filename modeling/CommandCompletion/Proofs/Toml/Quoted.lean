import CommandCompletion.Proofs.Json.Hex
import CommandCompletion.Proofs.Text.Half
import CommandCompletion.Toml.Printer
import Mathlib.Data.List.Basic
import Mathlib.Data.List.TakeWhile

namespace CommandCompletion

theorem Toml.Printout.ofText_ofChars (chars : List Char) :
    Printout.ofText (.ofChars chars) = ⟨chars, none⟩ := by
  rw [ofText, Text.chars?_ofChars]

namespace Toml

open Json (hexValue?_hex)

variable {c : Char} {text rest : List Char}

theorem lt_of_isIllegal {lines : Bool} (h : isIllegal lines c) : c.toNat < 128 := by
  simp only [isIllegal, Bool.and_eq_true, Bool.or_eq_true, decide_eq_true_eq] at h
  omega

-- A backslash and a letter.
theorem scanBasic_letter {letter : Char} (hu : letter ≠ 'u') (hU : letter ≠ 'U')
    (h : escaped? letter = some c) (rest : List Char) :
    scanBasic false .nothing ('\\' :: letter :: rest) = push c (scanBasic false .nothing rest) := by
  rw [scanBasic.eq_def]
  simp [hu, hU, h]

-- A backslash and a number.
theorem scanBasic_number (h : c.toNat < 128) (rest : List Char) :
    scanBasic false .nothing ('\\' :: 'u' :: Text.hex 4 c.toNat ++ rest) =
      push c (scanBasic false .nothing rest) := by
  have hscalar : scalar (Text.hex 4 c.toNat) rest = .ok c := by
    have hvalid : isScalar c.toNat = true := by
      simp only [isScalar, Bool.or_eq_true, decide_eq_true_eq]
      omega
    rw [scalar, hexValue?_hex 4 _ (by omega)]
    simp [hvalid]
  obtain ⟨d₁, d₂, d₃, d₄, hdigits⟩ : ∃ d₁ d₂ d₃ d₄, Text.hex 4 c.toNat = [d₁, d₂, d₃, d₄] :=
    ⟨_, _, _, _, rfl⟩
  rw [hdigits] at hscalar ⊢
  rw [scanBasic.eq_def]
  simp only [List.cons_append, List.nil_append]
  simp [hscalar]
  rfl

theorem scanBasic_plain (hquote : c ≠ '"') (hslash : c ≠ '\\') (h : isIllegal false c = false)
    (rest : List Char) :
    scanBasic false .nothing (c :: rest) = push c (scanBasic false .nothing rest) := by
  rw [scanBasic.eq_def]
  simp [hquote, hslash, h]

-- The escape of one character is read as that character.
theorem scanBasic_escapedChar (c : Char) (rest : List Char) :
    scanBasic false .nothing (escapedChar c ++ rest) = push c (scanBasic false .nothing rest) := by
  unfold escapedChar
  split
  · next h =>
    rcases (by simpa using h : c = '"' ∨ c = '\\') with rfl | rfl <;>
      exact scanBasic_letter (by decide) (by decide) rfl rest
  · split
    · next h => subst h; exact scanBasic_letter (by decide) (by decide) rfl rest
    split
    · next h => subst h; exact scanBasic_letter (by decide) (by decide) rfl rest
    split
    · next h => subst h; exact scanBasic_letter (by decide) (by decide) rfl rest
    split
    · next h => subst h; exact scanBasic_letter (by decide) (by decide) rfl rest
    split
    · next h => exact scanBasic_number (lt_of_isIllegal h) rest
    · next h => exact scanBasic_plain (by simp_all) (by simp_all) (by simp_all) rest

-- A text between quotes is read back, and nothing behind the closing quote is touched.
theorem scanBasic_escaped (chars rest : List Char) :
    scanBasic false .nothing (chars.flatMap escapedChar ++ '"' :: rest) = .ok (chars, rest) := by
  induction chars with
  | nil =>
    rw [scanBasic.eq_def]
    simp
  | cons c chars ih =>
    rw [List.flatMap_cons, List.append_assoc, scanBasic_escapedChar, ih]
    rfl

-- The characters of a text between its quotes, and of a name in a key.
def quotedChars (chars : List Char) : List Char :=
  '"' :: chars.flatMap escapedChar ++ ['"']

def keyChars (name : List Char) : List Char :=
  if !name.isEmpty && name.all isBareKeyChar then name else quotedChars name

theorem quotedText_ofChars (chars : List Char) :
    quotedText (.ofChars chars) = .ofChars (quotedChars chars) := by
  have hquote : Text.ofString "\"" = Text.ofChars ['"'] := rfl
  have hescaped : (Text.ofChars chars).flatMap escaped =
      Text.ofChars (chars.flatMap escapedChar) := by
    simp only [Text.ofChars, List.flatMap_map, List.map_flatMap]
    rfl
  rw [quotedText, hquote, hescaped, quotedChars]
  simp [Text.ofChars]

theorem keyPart_ofChars (name : List Char) :
    keyPart (.ofChars name) = .ofChars (keyChars name) := by
  have hbare : (Text.ofChars name).all (fun c => c.char?.any isBareKeyChar) =
      name.all isBareKeyChar := by
    rw [Text.ofChars, List.all_map]
    rfl
  have hempty : (Text.ofChars name).isEmpty = name.isEmpty := List.isEmpty_map
  rw [keyPart, keyChars, hbare, hempty, quotedText_ofChars]
  split <;> rfl

-- Quotes keep the halves of a text.
theorem hasHalf_quotedText (s : Text) : (quotedText s).hasHalf = s.hasHalf := by
  cases h : s.hasHalf with
  | false =>
    obtain ⟨chars, rfl⟩ := Text.exists_eq_ofChars h
    rw [quotedText_ofChars, Text.hasHalf_ofChars]
  | true =>
    obtain ⟨c, hmem, hhalf⟩ := List.any_eq_true.mp h
    refine List.any_eq_true.mpr ⟨c, ?_, hhalf⟩
    cases c with
    | char c => cases hhalf
    | half index =>
      have hinner : CodePoint.half index ∈ s.flatMap escaped :=
        List.mem_flatMap.mpr ⟨_, hmem, List.mem_singleton_self _⟩
      simp [quotedText, hinner]

theorem hasHalf_keyPart (name : Text) : (keyPart name).hasHalf = name.hasHalf := by
  unfold keyPart
  split
  · rfl
  · exact hasHalf_quotedText name

-- A name in a key is read back up to a character that is no part of bare keys.
theorem scanKeyPart_keyChars (name : List Char) (h : isBareKeyChar c = false) (rest : List Char) :
    scanKeyPart (keyChars name ++ c :: rest) = .ok (.ofChars name, c :: rest) := by
  unfold keyChars
  split
  · next hname =>
    obtain ⟨hempty, hbare⟩ : name ≠ [] ∧ ∀ c ∈ name, isBareKeyChar c := by simpa using hname
    have hfront : (name ++ c :: rest).takeWhile isBareKeyChar = name := by
      rw [List.takeWhile_append_of_pos hbare, List.takeWhile_cons_of_neg (by simp [h]),
        List.append_nil]
    have hbehind : (name ++ c :: rest).dropWhile isBareKeyChar = c :: rest := by
      rw [List.dropWhile_append_of_pos hbare, List.dropWhile_cons_of_neg (by simp [h])]
    obtain ⟨first, others, rfl⟩ := List.exists_cons_of_ne_nil hempty
    have hfirst := hbare first List.mem_cons_self
    unfold scanKeyPart
    split
    · next hhead =>
      cases hhead
      cases hfirst
    · next hhead =>
      cases hhead
      cases hfirst
    · next hhead =>
      cases hhead
      rw [if_pos hfirst, hfront, hbehind]
    · next hhead => cases hhead
  · simp only [quotedChars, List.cons_append, List.append_assoc, List.nil_append]
    rw [scanKeyPart, scanBasic_escaped]
    rfl

-- A name in a key stands for itself or begins with a quote.
theorem exists_keyChars_eq (name : List Char) :
    ∃ first others, keyChars name = first :: others ∧ (isBareKeyChar first ∨ first = '"') := by
  unfold keyChars
  split
  · next hname =>
    obtain ⟨hempty, hbare⟩ : name ≠ [] ∧ ∀ c ∈ name, isBareKeyChar c := by simpa using hname
    obtain ⟨first, others, rfl⟩ := List.exists_cons_of_ne_nil hempty
    exact ⟨first, others, rfl, .inl (hbare first List.mem_cons_self)⟩
  · exact ⟨'"', _, rfl, .inr rfl⟩

-- Carriage returns are always escaped.
theorem carriageReturn_notMem_escapedChar (c : Char) : '\r' ∉ escapedChar c := by
  by_cases hreturn : c = '\r'
  · subst hreturn
    decide
  unfold escapedChar
  split
  · simp [Ne.symm hreturn]
  split
  · decide
  split
  · decide
  split
  · decide
  split
  · intro h
    have hdigit : '\r' ∈ Text.hex 4 c.toNat := by simpa using h
    exact absurd (Text.mem_hexDigits_of_mem_hex hdigit) (by decide)
  · simp [Ne.symm hreturn]

theorem carriageReturn_notMem_quotedChars (chars : List Char) : '\r' ∉ quotedChars chars := by
  simp [quotedChars, carriageReturn_notMem_escapedChar]

theorem carriageReturn_notMem_keyChars (name : List Char) : '\r' ∉ keyChars name := by
  unfold keyChars
  split
  · next hname =>
    obtain ⟨-, hbare⟩ : name ≠ [] ∧ ∀ c ∈ name, isBareKeyChar c := by simpa using hname
    exact fun h => absurd (hbare _ h) (by decide)
  · exact carriageReturn_notMem_quotedChars name

end Toml

end CommandCompletion
