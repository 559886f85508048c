import CommandCompletion.Proofs.Json.Hex
import CommandCompletion.Proofs.Markup.Verbatim
import CommandCompletion.Text.Quoted

namespace CommandCompletion

namespace Markup

variable {text rest front back before after : Text} {c : CodePoint}

theorem staysInTag_iff : staysInTag c = true ↔ c ≠ .char '[' ∧ c ≠ .char ']' := by
  simp [staysInTag]

theorem staysInTag_of_opensTag (h : opensTag c = true) : staysInTag c = true := by
  rw [staysInTag_iff]
  constructor <;> rintro rfl <;> exact absurd h (by decide)

-- A tag goes on up to a closing bracket.
theorem isOpening_iff : IsOpening text ↔
    text.head?.any opensTag = true ∧ (text.dropWhile staysInTag).head? = some (.char ']') := by
  rw [← not_iff_not, ← tag?_eq_none_iff_not_isOpening]
  cases text with
  | nil => exact iff_of_true rfl nofun
  | cons c rest =>
    rw [tag?_eq_none_iff, not_and, List.head?_cons, Option.any_some]
    refine forall_congr' fun hopens => ?_
    rw [List.dropWhile_cons_of_pos (staysInTag_of_opensTag hopens)]

-- Text without brackets in front of a bracket.
theorem exists_of_append_eq (h : .char '[' ∉ front)
    (he : front ++ rest = before ++ .char '[' :: after) :
    ∃ more, before = front ++ more ∧ rest = more ++ .char '[' :: after := by
  induction front generalizing before with
  | nil => exact ⟨before, rfl, he⟩
  | cons c front ih =>
    rw [List.mem_cons, not_or] at h
    cases before with
    | nil => exact absurd (List.cons.inj he).1.symm h.1
    | cons d before =>
      obtain ⟨rfl, htail⟩ := List.cons.inj he
      obtain ⟨more, rfl, hrest⟩ := ih h.2 htail
      exact ⟨more, rfl, hrest⟩

-- A way to spell characters that leaves tags and the backslashes before them as they are.
structure Spelling (spell : CodePoint → Text) : Prop where
  brackets : ∀ c, staysInTag c = false → spell c = [c]
  stays : ∀ c, staysInTag c = true → ∀ d ∈ spell c, staysInTag d = true
  head : ∀ c, (spell c).head?.any opensTag = opensTag c
  last : ∀ c, ∃ d, (spell c).getLast? = some d ∧ (d = .char '\\' ↔ c = .char '\\')

namespace Spelling

variable {spell : CodePoint → Text} (h : Spelling spell)

include h

theorem head?_dropWhile (stays : ∀ c ∈ back, staysInTag c = true) (text : Text) :
    ((text.flatMap spell ++ back).dropWhile staysInTag).head? =
      (text.dropWhile staysInTag).head? := by
  induction text with
  | nil =>
    have hback : (back ++ []).dropWhile staysInTag = [] := List.dropWhile_append_of_pos stays
    rw [List.append_nil] at hback
    rw [List.flatMap_nil, List.nil_append, hback]
    rfl
  | cons c text ih =>
    rw [List.flatMap_cons, List.append_assoc]
    by_cases hc : staysInTag c = true
    · rw [List.dropWhile_append_of_pos (h.stays c hc), List.dropWhile_cons_of_pos hc, ih]
    · rw [h.brackets c (by simpa using hc), List.singleton_append, List.dropWhile_cons_of_neg hc,
        List.dropWhile_cons_of_neg hc]
      rfl

theorem isOpening_iff (stays : ∀ c ∈ back, staysInTag c = true) :
    IsOpening (text.flatMap spell ++ back) ↔ IsOpening text := by
  rw [Markup.isOpening_iff, Markup.isOpening_iff, h.head?_dropWhile stays]
  refine and_congr_left fun hclose => ?_
  cases text with
  | nil => cases hclose
  | cons c text =>
    obtain ⟨d, hlast, -⟩ := h.last c
    have hne : spell c ≠ [] := by
      intro he
      rw [he] at hlast
      cases hlast
    rw [List.flatMap_cons, List.append_assoc, List.head?_append_of_ne_nil _ hne, h.head,
      List.head?_cons, Option.any_some]

theorem getLast?_iff (hfront : front.getLast? ≠ some (.char '\\')) :
    (front ++ before.flatMap spell).getLast? = some (.char '\\') ↔
      before.getLast? = some (.char '\\') := by
  rcases List.eq_nil_or_concat' before with rfl | ⟨before, c, rfl⟩
  · simpa using hfront
  · obtain ⟨d, hlast, hslash⟩ := h.last c
    rw [List.flatMap_append, List.flatMap_singleton, ← List.append_assoc, List.getLast?_append,
      hlast, Option.some_or, List.getLast?_concat, Option.some_inj, Option.some_inj]
    exact hslash

-- Brackets are spelled as they are, and nothing else is spelled with them.
theorem exists_bracket (stays : ∀ c ∈ back, staysInTag c = true)
    (he : text.flatMap spell ++ back = before ++ .char '[' :: after) :
    ∃ first others, text = first ++ .char '[' :: others ∧ before = first.flatMap spell ∧
      after = others.flatMap spell ++ back := by
  induction text generalizing before with
  | nil =>
    have hmem : .char '[' ∈ back := by
      rw [show back = _ from he]
      exact List.mem_append_right before List.mem_cons_self
    exact absurd rfl (staysInTag_iff.mp (stays _ hmem)).1
  | cons c text ih =>
    rw [List.flatMap_cons, List.append_assoc] at he
    by_cases hc : c = .char '['
    · subst hc
      rw [h.brackets _ (by decide), List.singleton_append] at he
      cases before with
      | nil => exact ⟨[], text, rfl, rfl, (List.cons.inj he).2.symm⟩
      | cons d before =>
        obtain ⟨rfl, htail⟩ := List.cons.inj he
        obtain ⟨first, others, rfl, rfl, hafter⟩ := ih htail
        refine ⟨.char '[' :: first, others, rfl, ?_, hafter⟩
        rw [List.flatMap_cons, h.brackets _ (by decide)]
        rfl
    · have hopen : .char '[' ∉ spell c := by
        intro hmem
        by_cases hstays : staysInTag c = true
        · exact (staysInTag_iff.mp (h.stays c hstays _ hmem)).1 rfl
        · rw [h.brackets c (by simpa using hstays)] at hmem
          exact hc (List.mem_singleton.mp hmem).symm
      obtain ⟨more, rfl, hrest⟩ := exists_of_append_eq hopen he
      obtain ⟨first, others, rfl, rfl, hafter⟩ := ih hrest
      exact ⟨c :: first, others, rfl, rfl, hafter⟩

-- What is said of the brackets of a text can be said of those of its spelling.
theorem forall_bracket_iff (hfront : .char '[' ∉ front)
    (hslash : front.getLast? ≠ some (.char '\\')) (stays : ∀ c ∈ back, staysInTag c = true)
    (p : Prop → Prop → Prop) :
    (∀ before after, front ++ text.flatMap spell ++ back = before ++ .char '[' :: after →
      p (before.getLast? = some (.char '\\')) (IsOpening after)) ↔
    (∀ before after, text = before ++ .char '[' :: after →
      p (before.getLast? = some (.char '\\')) (IsOpening after)) := by
  constructor
  · rintro hall before after rfl
    have hbracket := hall (front ++ before.flatMap spell) (after.flatMap spell ++ back) (by
      rw [List.flatMap_append, List.flatMap_cons, h.brackets _ (by decide)]
      simp only [List.append_assoc, List.cons_append, List.nil_append])
    rwa [h.getLast?_iff hslash, h.isOpening_iff stays] at hbracket
  · intro hall before after he
    rw [List.append_assoc] at he
    obtain ⟨more, rfl, hmore⟩ := exists_of_append_eq hfront he
    obtain ⟨first, others, rfl, rfl, rfl⟩ := h.exists_bracket stays hmore
    rw [h.getLast?_iff hslash, h.isOpening_iff stays]
    exact hall first others rfl

theorem bare_iff (hfront : .char '[' ∉ front) (hslash : front.getLast? ≠ some (.char '\\'))
    (stays : ∀ c ∈ back, staysInTag c = true) :
    Bare (front ++ text.flatMap spell ++ back) ↔ Bare text :=
  h.forall_bracket_iff hfront hslash stays fun slash opening => ¬opening ∧ ¬slash

theorem guardable_iff (hfront : .char '[' ∉ front) (hslash : front.getLast? ≠ some (.char '\\'))
    (stays : ∀ c ∈ back, staysInTag c = true) :
    Guardable (front ++ text.flatMap spell ++ back) ↔ Guardable text :=
  h.forall_bracket_iff hfront hslash stays fun slash opening => slash → opening

end Spelling

-- Text is spelled by itself.
theorem spelling_self : Spelling fun c => [c] where
  brackets _ _ := rfl
  stays _ hc _ hd := List.mem_singleton.mp hd ▸ hc
  head _ := rfl
  last c := ⟨c, rfl, Iff.rfl⟩

end Markup

namespace Text

open Markup (opensTag staysInTag Spelling)

variable {mark c : CodePoint}

def IsMark (mark : CodePoint) : Prop :=
  mark = .char '\'' ∨ mark = .char '"'

theorem isMark_quoteMark (text : Text) : IsMark text.quoteMark := by
  unfold quoteMark
  split
  · exact .inr rfl
  · exact .inl rfl

theorem isPrintable_of_opensTag (h : opensTag c = true) : isPrintable c = true := by
  cases c with
  | half _ => cases h
  | char c =>
    simp only [opensTag, CodePoint.char?, Option.any_some, Bool.or_eq_true, Bool.and_eq_true,
      decide_eq_true_eq] at h
    rcases h with ((⟨hlow, hhigh⟩ | rfl) | rfl) | rfl
    · have hlow : 97 ≤ c.toNat := hlow
      have hhigh : c.toNat ≤ 122 := hhigh
      have hn : (CodePoint.char c).toNat = c.toNat := rfl
      rw [isPrintable, hn, if_pos (by omega)]
      exact decide_eq_true (by omega)
    all_goals decide

theorem exists_numbered (letter : Char) (h : staysInTag letter = true) (width n : Nat) :
    ∃ more last, numbered letter (width + 1) n = .char '\\' :: (more ++ [last]) ∧
      last ≠ .char '\\' ∧ ∀ d ∈ more ++ [last], staysInTag d = true := by
  have digits : hexDigits.all (fun d => staysInTag d && d ≠ '\\') = true := by decide
  have digit (d : Char) (hd : d ∈ hexDigits) :
      staysInTag d = true ∧ CodePoint.char d ≠ .char '\\' := by
    simpa using List.all_eq_true.mp digits d hd
  have hmem : hexDigits.getD (n % 16) '0' ∈ hex (width + 1) n :=
    List.mem_append_right _ List.mem_cons_self
  have hlast := digit _ (mem_hexDigits_of_mem_hex hmem)
  refine ⟨letter :: ofChars (hex width (n / 16)), hexDigits.getD (n % 16) '0', ?_, hlast.2, ?_⟩
  · simp [numbered, ofChars, hex]
  · refine List.forall_mem_append.mpr ⟨List.forall_mem_cons.mpr ⟨h, ?_⟩,
      List.forall_mem_singleton.mpr hlast.1⟩
    exact List.forall_mem_map.mpr fun d hd => (digit d (mem_hexDigits_of_mem_hex hd)).1

-- A character is quoted as it is, or behind a backslash with characters that are no brackets.
theorem quotedPoint_cases (hmark : IsMark mark) (c : CodePoint) :
    (quotedPoint mark c = [c] ∧ c ≠ .char '\\') ∨
      (opensTag c = false ∧ staysInTag c = true) ∧
        ∃ more last, quotedPoint mark c = .char '\\' :: (more ++ [last]) ∧
          (last = .char '\\' ↔ c = .char '\\') ∧ ∀ d ∈ more ++ [last], staysInTag d = true := by
  by_cases hself : c = mark ∨ c = .char '\\'
  · have ordinary : opensTag c = false ∧ staysInTag c = true := by
      rcases hself with rfl | rfl
      · rcases hmark with rfl | rfl <;> decide
      · decide
    refine .inr ⟨ordinary, [], c, ?_, Iff.rfl, List.forall_mem_singleton.mpr ordinary.2⟩
    rw [quotedPoint, if_pos (by simpa using hself)]
    rfl
  · obtain ⟨hne, hslash⟩ := not_or.mp hself
    unfold quotedPoint
    rw [if_neg (by simpa using hself)]
    split_ifs with hfeed hreturn htab hprint hsmall hmedium
    · subst hfeed
      exact .inr ⟨by decide, [], .char 'n', rfl, by decide, by decide⟩
    · subst hreturn
      exact .inr ⟨by decide, [], .char 'r', rfl, by decide, by decide⟩
    · subst htab
      exact .inr ⟨by decide, [], .char 't', rfl, by decide, by decide⟩
    · exact .inl ⟨rfl, hslash⟩
    all_goals
      have ordinary : opensTag c = false ∧ staysInTag c = true := by
        refine ⟨Bool.eq_false_iff.mpr (mt isPrintable_of_opensTag hprint),
          Markup.staysInTag_iff.mpr ⟨?_, ?_⟩⟩ <;> rintro rfl <;> exact hprint (by decide)
      refine .inr ⟨ordinary, ?_⟩
    · obtain ⟨more, last, he, hlast, stays⟩ := exists_numbered 'x' (by decide) 1 c.toNat
      exact ⟨more, last, he, iff_of_false hlast hslash, stays⟩
    · obtain ⟨more, last, he, hlast, stays⟩ := exists_numbered 'u' (by decide) 3 c.toNat
      exact ⟨more, last, he, iff_of_false hlast hslash, stays⟩
    · obtain ⟨more, last, he, hlast, stays⟩ := exists_numbered 'U' (by decide) 7 c.toNat
      exact ⟨more, last, he, iff_of_false hlast hslash, stays⟩

theorem spelling_quotedPoint (hmark : IsMark mark) : Spelling (quotedPoint mark) where
  brackets c hc := by
    rcases quotedPoint_cases hmark c with ⟨he, -⟩ | ⟨⟨-, stays⟩, -⟩
    · exact he
    · exact absurd stays (by simp [hc])
  stays c hc := by
    rcases quotedPoint_cases hmark c with ⟨he, -⟩ | ⟨-, more, last, he, -, stays⟩ <;> rw [he]
    · exact List.forall_mem_singleton.mpr hc
    · exact List.forall_mem_cons.mpr ⟨by decide, stays⟩
  head c := by
    rcases quotedPoint_cases hmark c with ⟨he, -⟩ | ⟨⟨closed, -⟩, more, last, he, -⟩ <;> rw [he]
    · rfl
    · rw [closed]
      rfl
  last c := by
    rcases quotedPoint_cases hmark c with ⟨he, -⟩ | ⟨-, more, last, he, hlast, -⟩ <;> rw [he]
    · exact ⟨c, rfl, Iff.rfl⟩
    · exact ⟨last, by rw [← List.cons_append, List.getLast?_concat], hlast⟩

theorem exists_quote (front text back : Text) : ∃ mark, IsMark mark ∧
    front ++ quote text ++ back =
      (front ++ [mark]) ++ text.flatMap (quotedPoint mark) ++ (mark :: back) := by
  refine ⟨text.quoteMark, isMark_quoteMark text, ?_⟩
  simp [quote]

end Text

namespace Markup

variable {text front back : Text}

-- Quotation marks are neither brackets nor backslashes.
theorem quotedBetween (hfront : .char '[' ∉ front) (hback : ∀ c ∈ back, staysInTag c = true)
    {mark : CodePoint} (hmark : Text.IsMark mark) : .char '[' ∉ front ++ [mark] ∧
      (front ++ [mark]).getLast? ≠ some (.char '\\') ∧
        ∀ c ∈ mark :: back, staysInTag c = true := by
  rw [List.mem_append, not_or, List.getLast?_concat]
  refine ⟨⟨hfront, ?_⟩, ?_, List.forall_mem_cons.mpr ⟨?_, hback⟩⟩ <;>
    rcases hmark with rfl | rfl <;> decide

theorem bare_quote (hfront : .char '[' ∉ front) (hback : ∀ c ∈ back, staysInTag c = true) :
    Bare (front ++ quote text ++ back) ↔ Bare text := by
  obtain ⟨mark, hmark, he⟩ := Text.exists_quote front text back
  obtain ⟨hopen, hslash, stays⟩ := quotedBetween hfront hback hmark
  rw [he, (Text.spelling_quotedPoint hmark).bare_iff hopen hslash stays]

theorem guardable_quote (hfront : .char '[' ∉ front) (hback : ∀ c ∈ back, staysInTag c = true) :
    Guardable (front ++ quote text ++ back) ↔ Guardable text := by
  obtain ⟨mark, hmark, he⟩ := Text.exists_quote front text back
  obtain ⟨hopen, hslash, stays⟩ := quotedBetween hfront hback hmark
  rw [he, (Text.spelling_quotedPoint hmark).guardable_iff hopen hslash stays]

-- A quoted text ends in no backslash.
theorem escapable_quote (hfront : .char '[' ∉ front)
    (hback : ∀ c ∈ back, staysInTag c = true) (hends : back.getLast? ≠ some (.char '\\')) :
    Escapable (front ++ quote text ++ back) ↔ Guardable text := by
  rw [Escapable, guardable_quote hfront hback, and_iff_left]
  rintro ⟨before, he⟩
  have hlast := congrArg List.getLast? he
  obtain ⟨mark, hmark, hquote⟩ := Text.exists_quote front text back
  rw [slashes_one, List.getLast?_concat, hquote, List.getLast?_append, List.getLast?_cons,
    Option.some_or, Option.some_inj] at hlast
  cases hbehind : back.getLast? with
  | some c =>
    rw [hbehind, Option.getD_some] at hlast
    exact absurd (hlast ▸ hbehind) hends
  | none =>
    rw [hbehind, Option.getD_none] at hlast
    rcases hmark with rfl | rfl <;> exact absurd hlast (by decide)

theorem bare_angled : Bare ("<" ++ text ++ ">") ↔ Bare text := by
  have h : Bare ("<" ++ text.flatMap (fun c => [c]) ++ ">") ↔ Bare text :=
    spelling_self.bare_iff (by decide) (by decide) (by decide)
  rwa [List.flatMap_singleton'] at h

end Markup

end CommandCompletion
