import CommandCompletion.Proofs.Toml.Inline

namespace CommandCompletion.Toml

variable {d d₁ d' : Draft} {c : Char} {text rest : List Char} {value : Value}

-- What is left of a document turns one draft into another, however much fuel there is.
def Reads (d : Draft) (text : List Char) (d' : Draft) : Prop :=
  ∀ fuel, text.length < fuel → scanLines fuel d text = .ok d'

theorem Reads.nil (d : Draft) : Reads d [] d := by
  intro fuel hfuel
  obtain ⟨fuel, rfl⟩ := Nat.exists_eq_succ_of_ne_zero (Nat.ne_zero_of_lt hfuel)
  rfl

-- Lines of a document turn one draft into another, whatever stands behind them.
structure Passes (d : Draft) (text : List Char) (d' : Draft) : Prop where
  oneLineEnd : '\r' ∉ text
  reads : ∀ {rest final}, Reads d' rest final → Reads d (text ++ rest) final

namespace Passes

theorem refl (d : Draft) : Passes d [] d :=
  ⟨List.not_mem_nil, id⟩

theorem trans {behind : List Char} (h : Passes d text d₁) (h' : Passes d₁ behind d') :
    Passes d (text ++ behind) d' := by
  refine ⟨by simp [h.oneLineEnd, h'.oneLineEnd], fun hrest => ?_⟩
  rw [List.append_assoc]
  exact h.reads (h'.reads hrest)

theorem emptyLine (d : Draft) : Passes d ['\n'] d := by
  refine ⟨by decide, fun hrest fuel hfuel => ?_⟩
  obtain ⟨fuel, rfl⟩ := Nat.exists_eq_succ_of_ne_zero (Nat.ne_zero_of_lt hfuel)
  exact hrest fuel (Nat.lt_of_succ_lt_succ hfuel)

-- A statement on a line of its own.
theorem statement (hspace : isSpace c = false) (hline : c ≠ '\n') (hreturn : '\r' ∉ c :: text)
    (hscan : ∀ rest, scanStatement d (c :: text ++ '\n' :: rest) = .ok (d', '\n' :: rest)) :
    Passes d (c :: text ++ ['\n']) d' := by
  refine ⟨by simpa using hreturn, fun {rest final} hrest fuel hfuel => ?_⟩
  rw [List.append_assoc, List.singleton_append] at hfuel ⊢
  obtain ⟨fuel, rfl⟩ := Nat.exists_eq_succ_of_ne_zero (Nat.ne_zero_of_lt hfuel)
  have hrestFuel : rest.length < fuel := by
    simp only [List.cons_append, List.length_cons, List.length_append] at hfuel
    omega
  have hend : skipComment (skipSpaces ('\n' :: rest)) = .ok ('\n' :: rest) := rfl
  unfold scanLines
  rw [List.cons_append, skipSpaces_cons hspace, ← List.cons_append]
  split
  · next hempty => cases hempty
  · next hcons =>
    cases hcons
    exact absurd rfl hline
  · rw [hscan]
    simp only [bind, Except.bind, hend]
    exact hrest fuel hrestFuel

variable {key : List (List Char)}

-- A key in brackets, with what closes them.
theorem scanKey_header (hkey : key ≠ []) (rest : List Char) :
    scanKey (skipSpaces (dottedChars key ++ ']' :: rest)) =
      .ok (key.map .ofChars, ']' :: rest) := by
  obtain ⟨name, key, rfl⟩ := List.exists_cons_of_ne_nil hkey
  obtain ⟨first, others, hname, hfirst⟩ := exists_dottedChars_eq name key
  have hscan : scanKey (dottedChars (name :: key) ++ ']' :: rest) =
      .ok ((name :: key).map .ofChars, ']' :: rest) :=
    scanKey_dottedChars hkey rfl (by rw [skipSpaces_cons rfl]; simp)
  rw [hname, List.cons_append] at hscan ⊢
  rwa [skipSpaces_cons (ne_of_isKeyStart hfirst).1]

theorem head?_dottedChars_ne (hkey : key ≠ []) (rest : List Char) :
    ∃ first others, dottedChars key ++ rest = first :: others ∧ first ≠ '[' := by
  obtain ⟨name, key, rfl⟩ := List.exists_cons_of_ne_nil hkey
  obtain ⟨first, others, hname, hfirst⟩ := exists_dottedChars_eq name key
  exact ⟨first, others ++ rest, by rw [hname]; rfl, (ne_of_isKeyStart hfirst).2.2.1⟩

-- The line that opens a section.
theorem header (hkey : key ≠ [])
    (hopen : ∀ rest, d.settle.openTable (key.map .ofChars) rest = .ok d') :
    Passes d ('[' :: (dottedChars key ++ [']']) ++ ['\n']) d' := by
  refine statement rfl (by decide) (by simp [carriageReturn_notMem_dottedChars]) fun rest => ?_
  have hscan := scanKey_header hkey ('\n' :: rest)
  obtain ⟨first, others, hfirst, hne⟩ := head?_dottedChars_ne hkey (']' :: '\n' :: rest)
  simp only [List.cons_append, List.append_assoc, List.nil_append]
  unfold scanStatement
  split
  · next hdouble =>
    rw [hfirst] at hdouble
    simp only [List.cons.injEq] at hdouble
    exact absurd hdouble.2.1 hne
  · next hsingle =>
    cases hsingle
    rw [hscan]
    simp only [bind, Except.bind, hopen]
    rfl
  · next hother hhead => exact (hother (List.cons.inj hhead).1.symm).elim
  · next hempty => cases hempty

-- The line that opens one more section of a list.
theorem itemHeader (hkey : key ≠ [])
    (hopen : ∀ rest, d.settle.openItem (key.map .ofChars) rest = .ok d') :
    Passes d ('[' :: '[' :: (dottedChars key ++ [']', ']']) ++ ['\n']) d' := by
  refine statement rfl (by decide) (by simp [carriageReturn_notMem_dottedChars]) fun rest => ?_
  have hscan := scanKey_header hkey (']' :: '\n' :: rest)
  simp only [List.cons_append, List.append_assoc, List.nil_append]
  rw [scanStatement, hscan]
  simp only [bind, Except.bind, hopen]
  rfl

-- The line of a name and its value.
theorem member {name printed : List Char} (hprinted : ReadsBack maxRoom printed value)
    (hadd : ∀ rest, d.addValue [.ofChars name] value rest = .ok d') :
    Passes d (keyChars name ++ ' ' :: '=' :: ' ' :: printed ++ ['\n']) d' := by
  obtain ⟨first, others, hname, hfirst⟩ := exists_keyChars_eq name
  obtain ⟨hspace, hline, hbracket, hkeyStart⟩ := ne_of_isKeyStart hfirst
  have hreturn : '\r' ∉ keyChars name ++ ' ' :: '=' :: ' ' :: printed := by
    simp [carriageReturn_notMem_keyChars, hprinted.oneLineEnd]
  have hscan (rest : List Char) :
      scanStatement d (keyChars name ++ ' ' :: '=' :: ' ' :: printed ++ '\n' :: rest) =
        .ok (d', '\n' :: rest) := by
    have hkey := scanKeyEquals_keyChars name (hprinted.starts.skipSpaces ('\n' :: rest))
    have hvalue := hprinted.scan ('\n' :: rest) (2 * (printed ++ '\n' :: rest).length + 1)
      (endsValue_cons (by decide) _) (by simp; omega)
    rw [List.append_assoc, List.cons_append, List.cons_append, List.cons_append]
    unfold scanStatement
    split
    · next hhead =>
      rw [hname] at hhead
      exact absurd (List.cons.inj hhead).1 hbracket
    · next hhead =>
      rw [hname] at hhead
      exact absurd (List.cons.inj hhead).1 hbracket
    · next hhead =>
      rw [hname] at hhead
      rw [← (List.cons.inj hhead).1, if_pos hkeyStart, hkey]
      simp only [bind, Except.bind, hvalue, hadd]
      rfl
    · next hhead => simp at hhead
  rw [hname] at hscan hreturn ⊢
  exact statement hspace hline hreturn hscan

end Passes

end CommandCompletion.Toml
