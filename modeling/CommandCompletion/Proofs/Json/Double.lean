import CommandCompletion.Proofs.Json.Number

namespace CommandCompletion

namespace Double

variable {d : Double} {n : Nat} {x : Int}

theorem mantissa_ne_zero (h : d.isZero = false) : d.mantissa ≠ 0 := by
  unfold mantissa
  split
  · simp_all [isZero]
  · exact Nat.ne_of_gt (Nat.add_pos_right _ (by decide))

theorem binarySide_pos (d : Double) (x : Int) : 0 < d.binarySide x :=
  Nat.mul_pos (Nat.pow_pos (by decide)) (Nat.pow_pos (by decide))

-- Zero does not round to another number.
theorem ne_zero_of_readsBack (hzero : d.isZero = false) (h : d.readsBack n x) : n ≠ 0 := by
  rintro rfl
  have hmantissa := mantissa_ne_zero hzero
  have hlow : 0 < d.quarters.1 := by
    unfold quarters
    dsimp only
    split <;> omega
  have hpos := Nat.mul_pos hlow (d.binarySide_pos x)
  unfold readsBack at h
  dsimp only at h
  rw [Nat.zero_mul] at h
  split at h
  · simp only [Bool.and_eq_true, decide_eq_true_eq] at h
    omega
  · simp only [Bool.and_eq_true, decide_eq_true_eq] at h
    omega

theorem div_le_roundHalfEven (num den : Nat) : num / den ≤ roundHalfEven num den := by
  unfold roundHalfEven
  extract_lets quotient twice
  split
  · exact le_rfl
  · exact Nat.le_succ _

theorem ne_zero_of_onGrid? (hzero : d.isZero = false) (h : d.onGrid? x = some n) : n ≠ 0 := by
  unfold onGrid? at h
  dsimp only at h
  split at h
  · next hbelow _ =>
    cases h
    exact ne_zero_of_readsBack hzero hbelow
  · cases h
    exact Nat.succ_ne_zero _
  · next hbelow _ =>
    cases h
    have hpos := Nat.pos_of_ne_zero (ne_zero_of_readsBack hzero hbelow)
    exact (hpos.trans_le (div_le_roundHalfEven _ _)).ne'
  · cases h

theorem shortest_eq_or (hzero : d.isZero = false) : d.shortest = (0, 0) ∨ d.shortest.1 ≠ 0 := by
  unfold shortest
  extract_lets top tries
  cases htries : tries with
  | nil => exact .inl rfl
  | cons first others =>
    have hfirst : first ∈ tries := htries ▸ List.mem_cons_self
    obtain ⟨count, -, hcount⟩ := List.mem_filterMap.mp hfirst
    obtain ⟨n, hn, rfl⟩ := Option.map_eq_some_iff.mp hcount
    exact .inr (ne_zero_of_onGrid? hzero hn)

theorem withoutZeros_ne_zero (fuel : Nat) (h : n ≠ 0) (x : Int) : (withoutZeros fuel n x).1 ≠ 0 := by
  induction fuel generalizing n x with
  | zero => exact h
  | succ fuel ih =>
    rw [withoutZeros]
    split
    · next hten =>
      exact ih (by simp at hten; omega) _
    · exact h

end Double

namespace Json

open Double

variable {digits : List Char} {power : Int}

theorem isDigit_replicate {c : Char} {n : Nat} (h : c ∈ List.replicate n '0') : isDigit c := by
  rw [List.eq_of_mem_replicate h]
  rfl

theorem IsWhole.append_zeros (h : IsWhole digits) (hzero : digits = ['0'] → power = 0) :
    IsWhole (digits ++ List.replicate power.toNat '0') := by
  rcases h with rfl | ⟨hne, hhead, hdigits⟩
  · rw [hzero rfl]
    exact .inl rfl
  · refine .inr ⟨by simp [hne], ?_, ?_⟩
    · rwa [List.head?_append, Option.or_of_isSome (List.isSome_head?.mpr hne)]
    · intro c hc
      rcases List.mem_append.mp hc with hc | hc
      · exact hdigits c hc
      · exact isDigit_replicate hc

theorem IsWhole.take (h : IsWhole digits) {count : Nat} (hcount : 0 < count) :
    IsWhole (digits.take count) := by
  rcases h with rfl | ⟨hne, hhead, hdigits⟩
  · exact .inl (List.take_of_length_le hcount)
  · obtain ⟨first, others, rfl⟩ := List.exists_cons_of_ne_nil hne
    obtain ⟨count, rfl⟩ := Nat.exists_eq_succ_of_ne_zero hcount.ne'
    exact .inr ⟨List.cons_ne_nil _ _, hhead, fun c hc => hdigits c (List.mem_of_mem_take hc)⟩

theorem isDigit_padded {c : Char} {width : Nat} (h : ∀ c ∈ digits, isDigit c)
    (hc : c ∈ padded width digits) : isDigit c := by
  rcases List.mem_append.mp hc with hc | hc
  · exact isDigit_replicate hc
  · exact h c hc

-- The digits of a number are written as a number with a fraction or an exponent.
theorem exists_decimal_written (h : IsWhole digits) (hzero : digits = ['0'] → power = 0) :
    ∃ parts : Decimal, parts.text = written digits power := by
  have hlength : 0 < digits.length := List.length_pos_iff.mpr h.ne_nil
  unfold written
  extract_lets count first
  split
  · split
    · refine ⟨⟨digits ++ List.replicate power.toNat '0', ['0'], none, h.append_zeros hzero,
        List.forall_mem_singleton.mpr rfl, nofun, .inl (List.cons_ne_nil _ _)⟩, ?_⟩
      simp [Decimal.text, Decimal.fractionText, Decimal.exponentText]
    split
    · have hsplit : 0 < (first + 1).toNat ∧ (first + 1).toNat < digits.length := by
        omega
      have hfraction : digits.drop (first + 1).toNat ≠ [] := by
        simpa using hsplit.2
      refine ⟨⟨digits.take (first + 1).toNat, digits.drop (first + 1).toNat, none,
        h.take hsplit.1, fun c hc => h.isDigit c (List.mem_of_mem_drop hc), nofun,
        .inl hfraction⟩, ?_⟩
      simp only [Decimal.text, Decimal.fractionText, Decimal.exponentText, hfraction, ↓reduceIte,
        List.append_nil]
    · refine ⟨⟨['0'], List.replicate (-first - 1).toNat '0' ++ digits, none, .inl rfl, ?_, nofun,
        .inl (List.append_ne_nil_of_right_ne_nil _ h.ne_nil)⟩, ?_⟩
      · intro c hc
        rcases List.mem_append.mp hc with hc | hc
        · exact isDigit_replicate hc
        · exact h.isDigit c hc
      · simp [Decimal.text, Decimal.fractionText, Decimal.exponentText, h.ne_nil]
  · next tail _ =>
    obtain ⟨leading, others, rfl⟩ := List.exists_cons_of_ne_nil h.ne_nil
    have hexponent : ∀ c ∈ padded 2 (Nat.toDigits 10 first.natAbs), isDigit c :=
      fun c hc => isDigit_padded (fun c hc => isDigit_of_mem_toDigits hc) hc
    refine ⟨⟨[leading], others, some (decide (first < 0), padded 2 (Nat.toDigits 10 first.natAbs)),
      h.take Nat.one_pos, fun c hc => h.isDigit c (List.mem_cons_of_mem _ hc), ?_,
      .inr (Option.some_ne_none _)⟩, ?_⟩
    · rintro _ ⟨⟩
      exact ⟨List.append_ne_nil_of_right_ne_nil _ Nat.toDigits_ne_nil, hexponent⟩
    · cases others <;> simp [Decimal.text, Decimal.fractionText, Decimal.exponentText, tail]

-- A finite number is written as its sign and a number with a fraction or an exponent.
theorem exists_decimal_text {d : Double} (hnan : d.isNaN = false)
    (hinfinite : d.isInfinite = false) :
    ∃ parts : Decimal, d.text.toList = signed d.sign parts.text := by
  have hsize : ∃ parts : Decimal, parts.text =
      if d.isZero then "0.0".toList
      else
        written (Nat.toDigits 10 (withoutZeros 20 d.shortest.1 d.shortest.2).1)
          (withoutZeros 20 d.shortest.1 d.shortest.2).2 := by
    split
    · exact ⟨⟨['0'], ['0'], none, .inl rfl, List.forall_mem_singleton.mpr rfl, nofun,
        .inl (List.cons_ne_nil _ _)⟩, rfl⟩
    · next hzero =>
      refine exists_decimal_written (isWhole_toDigits _) fun hsingle => ?_
      rcases shortest_eq_or (by simpa using hzero) with hshortest | hshortest
      · rw [hshortest]
        rfl
      · refine absurd ?_ (head?_toDigits (withoutZeros_ne_zero 20 hshortest d.shortest.2))
        rw [hsingle]
        rfl
  obtain ⟨parts, hparts⟩ := hsize
  refine ⟨parts, ?_⟩
  rw [hparts, Double.text, hnan, hinfinite]
  simp only [Bool.false_eq_true, ↓reduceIte, String.toList_ofList]
  rfl

theorem Decimal.signed_text (parts : Decimal) (negative : Bool) (rest : List Char) :
    signed negative parts.text ++ rest =
      signed negative parts.whole ++ (parts.fractionText ++ parts.exponentText ++ rest) := by
  cases negative <;> simp [Decimal.text, signed]

-- Whatever follows it, the text of a double is read as one.
theorem exists_scanWord_doubleText (d : Double) :
    ∃ e, ∀ rest, EndsNumber rest → scanWord (doubleText d ++ rest) = .ok (.double e, rest) := by
  unfold doubleText
  split
  · exact ⟨.nan, fun rest _ => rfl⟩
  split
  · split
    · exact ⟨.infinity true, fun rest _ => rfl⟩
    · exact ⟨.infinity false, fun rest _ => rfl⟩
  · next hnan hinfinite =>
    obtain ⟨parts, hparts⟩ := exists_decimal_text (by simpa using hnan) (by simpa using hinfinite)
    refine ⟨doubleOf d.sign parts.whole parts.fraction parts.exponent, fun rest hrest => ?_⟩
    rw [hparts, parts.signed_text, scanWord_signed _ parts.isWhole,
      parts.scanNumber_text _ hrest]

-- The double that is read where one is written.
def reread (d : Double) : Double :=
  match scanWord (doubleText d) with
  | .ok (.double e, _) => e
  | _ => d

theorem scanWord_doubleText (d : Double) {rest : List Char} (hrest : EndsNumber rest) :
    scanWord (doubleText d ++ rest) = .ok (.double (reread d), rest) := by
  obtain ⟨e, he⟩ := exists_scanWord_doubleText d
  have hself : scanWord (doubleText d) = .ok (.double e, []) := by
    simpa using he [] nofun
  rw [he rest hrest, reread, hself]

end Json

end CommandCompletion
