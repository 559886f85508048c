import CommandCompletion.Proofs.Json.Number
import CommandCompletion.Toml.Reader

namespace CommandCompletion.Toml

open Json (IsWhole digitsOf isDigit isWhole_toDigits length_toDigits_le ofDigits_toDigits signed)

variable {digits rest text : List Char} {c : Char}

-- What follows a value: the end of its line, a comma, or the blank before a closing brace.
def EndsValue (rest : List Char) : Prop :=
  ∃ c others, rest = c :: others ∧ c ∈ ['\n', ',', ' ']

theorem endsValue_cons (h : c ∈ ['\n', ',', ' ']) (rest : List Char) : EndsValue (c :: rest) :=
  ⟨c, rest, rfl, h⟩

-- No character that may stand in a number follows a value.
theorem EndsValue.exists_ne (h : EndsValue rest) (allowed : List Char)
    (hallowed : ∀ c ∈ ['\n', ',', ' '], c ∉ allowed) :
    ∃ c others, rest = c :: others ∧ isDigit c = false ∧ c ∉ allowed := by
  obtain ⟨c, others, rfl, hc⟩ := h
  refine ⟨c, others, rfl, ?_, hallowed c hc⟩
  simp only [List.mem_cons, List.not_mem_nil, or_false] at hc
  rcases hc with rfl | rfl | rfl <;> rfl

theorem scanDigits_append (hdigits : ∀ c ∈ digits, isDigit c) (hrest : EndsValue rest) :
    scanDigits isDigit (digits ++ rest) = (digits, rest) := by
  obtain ⟨next, others, rfl, hnext, hline⟩ := hrest.exists_ne ['_'] (by simp)
  have hline : next ≠ '_' := by simpa using hline
  induction digits with
  | nil => cases others <;> simp [scanDigits, hnext]
  | cons first digits ih =>
    obtain ⟨hfirst, hdigits⟩ := List.forall_mem_cons.mp hdigits
    have hrest := ih hdigits
    cases digits with
    | nil =>
      rw [List.nil_append] at hrest
      simp [scanDigits, hfirst, hline, hrest]
    | cons second digits =>
      have hsecond : second ≠ '_' := by
        rintro rfl
        exact absurd (hdigits _ List.mem_cons_self) (by decide)
      rw [List.cons_append] at hrest
      simp [scanDigits, hfirst, hsecond, hrest]

theorem scanWhole_append (h : IsWhole digits) (hrest : EndsValue rest) :
    scanWhole (digits ++ rest) = (digits, rest) := by
  rcases h with rfl | ⟨hne, hzero, hdigits⟩
  · rfl
  · unfold scanWhole
    split
    · next hhead =>
      obtain ⟨first, others, rfl⟩ := List.exists_cons_of_ne_nil hne
      cases hhead
      exact absurd rfl hzero
    · exact scanDigits_append hdigits hrest

theorem scanSign_signed (negative : Bool) (h : IsWhole digits) (rest : List Char) :
    scanSign (signed negative digits ++ rest) = (negative, digits ++ rest) := by
  obtain ⟨first, others, rfl⟩ := List.exists_cons_of_ne_nil h.ne_nil
  have hfirst := h.isDigit first List.mem_cons_self
  cases negative with
  | true => rfl
  | false =>
    unfold scanSign
    split
    · next hhead =>
      cases hhead
      cases hfirst
    · next hhead =>
      cases hhead
      cases hfirst
    · rfl

-- A whole number that is written to base 10 begins like none of another base.
theorem scanPrefixed_signed (negative : Bool) (h : IsWhole digits) (hrest : EndsValue rest) :
    scanPrefixed (signed negative digits ++ rest) = none := by
  cases negative with
  | true => rfl
  | false =>
    rcases h with rfl | ⟨hne, hzero, -⟩
    · obtain ⟨next, others, rfl, -, hnext⟩ := hrest.exists_ne ['x', 'o', 'b'] (by simp)
      simp only [List.mem_cons, List.not_mem_nil, or_false, not_or] at hnext
      simp [signed, scanPrefixed, hnext]
    · obtain ⟨first, others, rfl⟩ := List.exists_cons_of_ne_nil hne
      have hfirst : first ≠ '0' := by simpa using hzero
      simp [signed, scanPrefixed, hfirst]

-- Digits of which a fixed number was taken: no mark of a moment follows them.
theorem scanMark_of_scanFixed {width n : Nat} {after : List Char} (hrest : EndsValue rest)
    (h : scanFixed width (digits ++ rest) = some (n, after)) {mark : Char}
    (hmark : isDigit mark = false ∧ mark ∉ ['\n', ',', ' '])
    (hdigits : ∀ c ∈ digits, isDigit c) : scanMark mark after = none := by
  obtain ⟨next, others, rfl, hnext, hne⟩ := hrest.exists_ne [mark]
    fun c hc hmem => hmark.2 (List.mem_singleton.mp hmem ▸ hc)
  rw [scanFixed] at h
  split at h
  · next htaken =>
    obtain ⟨hlength, hall⟩ := by simpa using htaken
    cases h
    have hwidth : width ≤ digits.length := by
      by_contra hlong
      have hmem : next ∈ (digits ++ next :: others).take width := by
        rw [List.take_append]
        obtain ⟨k, hk⟩ : ∃ k, width - digits.length = k + 1 := ⟨width - digits.length - 1, by omega⟩
        simp [hk]
      exact absurd (hall _ hmem) (by simp [hnext])
    rw [List.drop_append_of_le_length hwidth]
    cases hdrop : digits.drop width with
    | nil =>
      have hne : next ≠ mark := by simpa using hne
      simp [scanMark, hne]
    | cons first behind =>
      have hne : first ≠ mark := by
        rintro rfl
        have hmem : first ∈ digits := List.mem_of_mem_drop (hdrop ▸ List.mem_cons_self)
        exact absurd (hdigits first hmem) (by simp [hmark.1])
      simp [scanMark, hne]
  · cases h

theorem scanFixed_minus {width : Nat} (hwidth : 0 < width) (text : List Char) :
    scanFixed width ('-' :: text) = none := by
  obtain ⟨width, rfl⟩ := Nat.exists_eq_succ_of_ne_zero hwidth.ne'
  have hminus : isDigit '-' = false := by decide
  simp [scanFixed, hminus]

-- A number is too short for the first part of a moment, or no mark of one follows it there.
theorem scanFixed_signed (negative : Bool) (hdigits : ∀ c ∈ digits, isDigit c)
    (hrest : EndsValue rest) {width : Nat} (hwidth : 0 < width) {mark : Char}
    (hmark : isDigit mark = false ∧ mark ∉ ['\n', ',', ' ']) :
    scanFixed width (signed negative digits ++ rest) = none ∨ ∃ n after,
      scanFixed width (signed negative digits ++ rest) = some (n, after) ∧
        scanMark mark after = none := by
  cases negative with
  | true => exact .inl (scanFixed_minus hwidth _)
  | false =>
    rw [signed, if_neg Bool.false_ne_true]
    cases h : scanFixed width (digits ++ rest) with
    | none => exact .inl rfl
    | some found => exact .inr ⟨found.1, found.2, rfl, scanMark_of_scanFixed hrest h hmark hdigits⟩

theorem scanDate_signed (negative : Bool) (hdigits : ∀ c ∈ digits, isDigit c)
    (hrest : EndsValue rest) : scanDate (signed negative digits ++ rest) = none := by
  rcases scanFixed_signed negative hdigits hrest (by decide : 0 < 4)
      (by decide : isDigit '-' = false ∧ _) with hyear | ⟨year, after, hyear, hmark⟩
  · simp [scanDate, hyear]
  · simp [scanDate, hyear, hmark]

theorem scanTime_signed (negative : Bool) (hdigits : ∀ c ∈ digits, isDigit c)
    (hrest : EndsValue rest) : scanTime (signed negative digits ++ rest) = none := by
  rcases scanFixed_signed negative hdigits hrest (by decide : 0 < 2)
      (by decide : isDigit ':' = false ∧ _) with hhour | ⟨hour, after, hhour, hmark⟩
  · simp [scanTime, scanTwo, hhour]
  · simp only [scanTime, scanTwo, hhour, Option.bind_eq_bind, Option.bind_some]
    split <;> simp [hmark]

theorem scanMoment?_signed (negative : Bool) (hdigits : ∀ c ∈ digits, isDigit c)
    (hrest : EndsValue rest) : scanMoment? (signed negative digits ++ rest) = none := by
  rw [scanMoment?, scanDate_signed negative hdigits hrest, scanTime_signed negative hdigits hrest]
  rfl

-- A whole number of not too many digits is read back.
theorem scanNumber?_signed {n : Nat} (negative : Bool)
    (h : (Nat.toDigits 10 n).length ≤ Text.maxDigits) (hrest : EndsValue rest) :
    scanNumber? (signed negative (Nat.toDigits 10 n) ++ rest) =
      some (.ok (.int (if negative then -n else n), rest)) := by
  have hwhole := isWhole_toDigits n
  obtain ⟨first, others, hdigits⟩ := List.exists_cons_of_ne_nil hwhole.ne_nil
  obtain ⟨next, behind, hbehind, -, hnext⟩ := hrest.exists_ne ['.', 'e', 'E'] (by simp)
  obtain ⟨hpoint, he, hE⟩ : next ≠ '.' ∧ next ≠ 'e' ∧ next ≠ 'E' := by simpa using hnext
  have hfraction : scanFraction rest = ([], rest) := by
    rw [hbehind, scanFraction]
    rintro _ ⟨⟩
    exact hpoint rfl
  have hexponent : scanExponent rest = (none, rest) := by
    rw [hbehind, scanExponent]
    simp [he, hE]
  have hdecimal : scanDecimal (signed negative (Nat.toDigits 10 n) ++ rest) =
      some (.ok (.int (if negative then -n else n), rest)) := by
    rw [scanDecimal, scanSign_signed negative hwhole]
    simp only [scanWhole_append hwhole hrest]
    split
    · next hempty => exact absurd (congrArg Prod.fst hempty) hwhole.ne_nil
    · next heq =>
      cases heq
      simp only [hfraction, hexponent, ofDigits_toDigits]
      rw [if_pos (by rfl), if_neg (not_lt.mpr h)]
  rw [scanNumber?, scanPrefixed_signed negative hwhole hrest, hdecimal]

end CommandCompletion.Toml
