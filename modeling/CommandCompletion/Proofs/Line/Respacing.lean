import CommandCompletion.Proofs.Line.Choice
import CommandCompletion.Proofs.Line.Ending
import CommandCompletion.Sample

namespace CommandCompletion

open Text (IsWord IsGap Flush isBlank trimStart)

namespace Text

def EndsBlank (text : Text) : Prop :=
  ∃ c ∈ text.getLast?, isBlank c = true

instance (text : Text) : Decidable (EndsBlank text) :=
  decidable_of_iff (text.getLast?.any isBlank) (by simp [EndsBlank, Option.any_eq_true])

-- Texts with the same words whose last words are both ended by a blank or both not. Everything
-- else about their blanks may differ.
structure Respaced (text other : Text) : Prop where
  words : words text = words other
  ending : EndsBlank text ↔ EndsBlank other

instance (text other : Text) : Decidable (Respaced text other) :=
  decidable_of_iff (Text.words text = Text.words other ∧ (EndsBlank text ↔ EndsBlank other))
    ⟨fun h => ⟨h.1, h.2⟩, fun h => ⟨h.words, h.ending⟩⟩

variable {text other word gap rest : Text}

theorem Respaced.symm (h : Respaced text other) : Respaced other text :=
  ⟨h.words.symm, h.ending.symm⟩

theorem endsBlank_append (hne : rest ≠ []) : EndsBlank (text ++ rest) ↔ EndsBlank rest := by
  rw [EndsBlank, EndsBlank, List.getLast?_append, List.getLast?_eq_some_getLast hne,
    Option.some_or]

-- Behind a word only its gap decides, if nothing follows that.
theorem IsWord.endsBlank_append_gap (hw : IsWord word) (hg : IsGap gap) :
    EndsBlank (word ++ gap) ↔ gap ≠ [] := by
  by_cases hnil : gap = []
  · subst hnil
    have hlast : isBlank (word.getLast hw.1) = false := hw.2 _ (List.getLast_mem hw.1)
    simp [EndsBlank, List.getLast?_eq_some_getLast hw.1, hlast]
  · have hlast : isBlank (gap.getLast hnil) = true := hg _ (List.getLast_mem hnil)
    simp [EndsBlank, List.getLast?_eq_some_getLast hnil, hlast, hnil]

-- A text that begins with a word is that word, the blanks behind it, and the rest.
theorem Flush.exists_word (flush : Flush text) (hne : text ≠ []) :
    ∃ word gap rest, text = word ++ (gap ++ rest) ∧ IsWord word ∧ IsGap gap ∧ Flush rest ∧
      (gap = [] → rest = []) := by
  obtain ⟨c, tail, rfl⟩ := List.exists_cons_of_ne_nil hne
  have hink : isInk c = true := isInk_eq_true_iff.mpr (flush c rfl)
  have hword : (c :: tail).takeWhile isInk ≠ [] := by simp [hink]
  have hsplit := List.takeWhile_append_dropWhile (p := isInk) (l := c :: tail)
  by_cases hend : (c :: tail).dropWhile isInk = []
  · refine ⟨_, [], [], ?_, isWord_takeWhile_isInk hword, by simp [IsGap], flush_nil, fun _ => rfl⟩
    rw [hend] at hsplit
    simpa using hsplit.symm
  · obtain ⟨gap, hg, hgap, he⟩ := exists_gap_of_dropWhile_isInk hend
    refine ⟨_, gap, trimStart ((c :: tail).dropWhile isInk), ?_, isWord_takeWhile_isInk hword, hg,
      flush_trimStart _, fun hnil => absurd hnil hgap⟩
    rw [← he, hsplit]

theorem words_portion (hw : IsWord word) (hg : IsGap gap) (hend : gap = [] → rest = []) :
    words (word ++ (gap ++ rest)) = word :: words rest := by
  have detached : Detached (gap ++ rest) :=
    hg.detached_append fun hnil => hend hnil ▸ detached_nil
  rw [words_word_append hw detached, words_gap_append hg]

theorem Flush.words_eq_nil_iff (flush : Flush text) : words text = [] ↔ text = [] := by
  refine ⟨fun h => ?_, fun h => h ▸ words_nil⟩
  by_contra hne
  obtain ⟨word, gap, rest, rfl, hw, hg, -, hend⟩ := flush.exists_word hne
  rw [words_portion hw hg hend] at h
  cases h

-- The indentation does not matter either.
theorem Respaced.trimmed (h : Respaced text other) :
    Respaced (trimStart text) (trimStart other) := by
  obtain ⟨gap, hg, he⟩ := exists_gap text
  obtain ⟨indent, hi, ho⟩ := exists_gap other
  have hwords : Text.words (trimStart text) = Text.words (trimStart other) := by
    have h := h.words
    rwa [he, ho, words_gap_append hg, words_gap_append hi] at h
  refine ⟨hwords, ?_⟩
  have hnil : trimStart text = [] ↔ trimStart other = [] := by
    rw [← (flush_trimStart text).words_eq_nil_iff, hwords,
      (flush_trimStart other).words_eq_nil_iff]
  by_cases hempty : trimStart text = []
  · rw [hempty, hnil.mp hempty]
  · have hending := h.ending
    rwa [he, ho, endsBlank_append hempty, endsBlank_append (mt hnil.mpr hempty)] at hending

-- A text that is spaced in another way than one that begins with a word begins with that word,
-- ended in the same way, and what follows is the other's rest, spaced in another way.
theorem Respaced.exists_portion (h : Respaced (word ++ (gap ++ rest)) other) (hw : IsWord word)
    (hg : IsGap gap) (hr : Flush rest) (hend : gap = [] → rest = []) (flush : Flush other) :
    ∃ space behind, other = word ++ (space ++ behind) ∧ IsGap space ∧ (space = [] ↔ gap = []) ∧
      Flush behind ∧ (space = [] → behind = []) ∧ Respaced rest behind := by
  obtain ⟨hwords, hending⟩ := h
  rw [words_portion hw hg hend] at hwords
  have hne : other ≠ [] := by
    rintro rfl
    simp [words_nil] at hwords
  obtain ⟨first, space, behind, rfl, hf, hs, hb, hstop⟩ := flush.exists_word hne
  rw [words_portion hf hs hstop, List.cons.injEq] at hwords
  obtain ⟨rfl, hwords⟩ := hwords
  have hnil : rest = [] ↔ behind = [] := by
    rw [← hr.words_eq_nil_iff, hwords, hb.words_eq_nil_iff]
  by_cases hrest : rest = []
  · have hbehind := hnil.mp hrest
    subst hrest hbehind
    rw [List.append_nil, List.append_nil, hw.endsBlank_append_gap hg, hw.endsBlank_append_gap hs,
      not_iff_not] at hending
    exact ⟨space, [], rfl, hs, hending.symm, flush_nil, fun _ => rfl, rfl, Iff.rfl⟩
  · have hbehind : behind ≠ [] := mt hnil.mpr hrest
    rw [← List.append_assoc, endsBlank_append hrest, ← List.append_assoc,
      endsBlank_append hbehind] at hending
    refine ⟨space, behind, rfl, hs, ?_, hb, hstop, hwords, hending⟩
    exact iff_of_false (fun hnil => hbehind (hstop hnil)) fun hnil => hrest (hend hnil)

-- Where there are no blanks there is nothing to space.
theorem Respaced.eq_of_unbroken (h : Respaced text other) (ht : Flush text) (ho : Flush other)
    (unbroken : ∀ c ∈ text, isBlank c = false) : text = other := by
  by_cases hne : text = []
  · subst hne
    exact (ho.words_eq_nil_iff.mp (h.words.symm.trans words_nil)).symm
  · have whole : text ++ ([] ++ []) = text := by simp
    rw [← whole] at h
    obtain ⟨space, behind, rfl, -, hspace, -, hstop, -⟩ :=
      h.exists_portion ⟨hne, unbroken⟩ (by simp [IsGap]) flush_nil (fun _ => rfl) ho
    rw [hstop (hspace.mpr rfl), hspace.mpr rfl]
    exact whole.symm

end Text

open Text (Respaced)

-- Full words stand in both texts, whatever the blanks behind each of them are.
theorem Phrase.exists_respaced {phrase : Phrase} (full : ∀ portion ∈ phrase, portion.Full)
    {rest other : Text} (hr : Flush rest) (ho : Flush other)
    (h : Respaced (phrase.text ++ rest) other) :
    ∃ (twin : Phrase) (behind : Text), other = twin.text ++ behind ∧ twin.words = phrase.words ∧
      (∀ portion ∈ twin, portion.Full) ∧ Flush behind ∧ Respaced rest behind := by
  induction phrase generalizing other with
  | nil => exact ⟨[], other, rfl, rfl, by simp, ho, h⟩
  | cons portion phrase ih =>
    obtain ⟨⟨hw, hg, hgap⟩, full⟩ := List.forall_mem_cons.mp full
    rw [text_cons, List.append_assoc, List.append_assoc] at h
    obtain ⟨space, behind, rfl, hs, hspace, hb, -, hrest⟩ :=
      h.exists_portion hw hg (flush_text_append full hr) (fun hnil => absurd hnil hgap) ho
    obtain ⟨twin, left, rfl, hwords, htwin, hleft, hlast⟩ := ih full hb hrest
    refine ⟨⟨portion.word, space⟩ :: twin, left, by simp, by simpa [words] using hwords, ?_, hleft,
      hlast⟩
    exact List.forall_mem_cons.mpr ⟨⟨hw, hs, mt hspace.mp hgap⟩, htwin⟩

namespace Node

variable {node : Node} {name line other : Text}

-- What a child takes from a line it takes from the line spaced in another way, and is bound to the
-- same text.
theorem bite?_of_respaced (plain : node.kind = .literal → IsWord name) (ho : Flush other)
    (h : Respaced line other) {bite : Bite} (takes : node.bite? name line = some bite) :
    ∃ behind, node.bite? name other = some ⟨bite.bound, behind⟩ ∧ Flush behind ∧
      Respaced bite.rest behind := by
  obtain ⟨bound, rest⟩ := bite
  obtain ⟨phrase, spelled, rfl, flush, hend⟩ := spelled_of_bite? takes
  simp only at spelled flush hend h
  cases spelled with
  | @literal gap kind blank =>
    have hgap : gap = [] → rest = [] := by
      rintro rfl
      exact hend (by simp [Phrase.Closed])
    rw [Phrase.text_cons, Phrase.text_nil, List.append_nil, List.append_assoc] at h
    obtain ⟨space, behind, rfl, hs, -, hb, hstop, hrest⟩ :=
      h.exists_portion (plain kind) blank flush hgap ho
    have twin : node.Spelled name [⟨name, space⟩] none := .literal kind hs
    refine ⟨behind, ?_, hb, hrest⟩
    simpa using twin.bite? hb fun hopen => hstop (by simpa [Phrase.Closed] using hopen)
  | argument kind count full =>
    obtain ⟨twin, behind, rfl, hwords, htwin, hb, hrest⟩ :=
      Phrase.exists_respaced full flush ho h
    have hcount : twin.length = node.argument.width := by
      rw [← count, ← List.length_map Portion.word, ← List.length_map Portion.word]
      exact congrArg List.length hwords
    have spelled : node.Spelled name twin (some (Text.spaced twin.words)) :=
      .argument kind hcount htwin
    rw [hwords] at spelled
    exact ⟨behind, spelled.bite? hb fun hopen => absurd (fun p hp => (htwin p hp).2.2) hopen, hb,
      hrest⟩

theorem bite?_eq_none_of_respaced (plain : node.kind = .literal → IsWord name) (hl : Flush line)
    (h : Respaced line other) (passes : node.bite? name line = none) :
    node.bite? name other = none := by
  rw [← Option.not_isSome_iff_eq_none]
  intro takes
  obtain ⟨bite, hbite⟩ := Option.isSome_iff_exists.mp takes
  obtain ⟨behind, hline, -⟩ := bite?_of_respaced plain hl h.symm hbite
  rw [passes] at hline
  cases hline

end Node

namespace Grammar

variable {g : Grammar} {spot tip : g.Spot} {line other rest left : Text} {step : Step g}
  {steps : List (Step g)}

-- A turn is the same one on a line that is spaced in another way; only the text it takes differs.
theorem Turn.of_respaced (plain : g.PlainNames) (hl : Flush line) (ho : Flush other)
    (h : Respaced line other) (turn : g.Turn spot line step rest) :
    ∃ taken behind, g.Turn spot other { step with taken } behind ∧ Flush behind ∧
      Respaced rest behind := by
  obtain ⟨earlier, later, hc, passed⟩ := turn.first
  have hstep : step.spot.node.kind = .literal → IsWord step.name := plain.isWord hc (by simp)
  obtain ⟨behind, takes, hb, hrest⟩ := Node.bite?_of_respaced hstep ho h turn.bite
  obtain ⟨phrase, -, whole, -⟩ := Node.spelled_of_bite? takes
  refine ⟨phrase.text, behind, ⟨⟨earlier, later, hc, fun pair hp => ?_⟩, takes, whole⟩, hb, hrest⟩
  have hpair : pair.2.node.kind = .literal → IsWord pair.1 :=
    plain.isWord hc (List.mem_append_left _ hp)
  exact Node.bite?_eq_none_of_respaced hpair hl h (passed pair hp)

theorem Course.of_respaced (plain : g.PlainNames) (hl : Flush line) (ho : Flush other)
    (h : Respaced line other) (course : g.Course spot line steps tip left) :
    ∃ twins behind, g.Course spot other twins tip behind ∧
      twins.map (·.name) = steps.map (·.name) ∧
      twins.filterMap Step.binding? = steps.filterMap Step.binding? ∧ Flush left ∧ Flush behind ∧
      Respaced left behind := by
  induction course generalizing other with
  | nil => exact ⟨[], other, .nil _ _, rfl, rfl, hl, ho, h⟩
  | @cons spot tip line rest left step steps turn others ih =>
    obtain ⟨phrase, -, -, hrest, -⟩ := turn.spelled
    obtain ⟨taken, middle, first, hm, hmiddle⟩ := turn.of_respaced plain hl ho h
    obtain ⟨twins, behind, course, hnames, hbindings, hleft, hb, hlast⟩ := ih hrest hm hmiddle
    refine ⟨{ step with taken } :: twins, behind, .cons first course, by simp [hnames], ?_, hleft,
      hb, hlast⟩
    have same : Step.binding? { step with taken } = step.binding? := rfl
    rw [List.filterMap_cons, List.filterMap_cons, same, hbindings]

theorem Stops.of_respaced (plain : g.PlainNames) (hl : Flush line) (h : Respaced line other)
    (stops : g.Stops spot line) : g.Stops spot other := by
  obtain ⟨children, hc, passed⟩ := stops
  refine ⟨children, hc, fun pair hp => ?_⟩
  exact Node.bite?_eq_none_of_respaced (plain.isWord hc hp) hl h (passed pair hp)

theorem parseFrom_of_respaced (plain : g.PlainNames) (hl : Flush line) (ho : Flush other)
    (h : Respaced line other) (start : g.Spot) :
    (∃ fault, g.parseFrom start line = .error fault ∧ g.parseFrom start other = .error fault) ∨
      ∃ parse remainder, g.parseFrom start line = .ok parse ∧
        g.parseFrom start other = .ok { parse with remainder } ∧ Flush parse.remainder ∧
        Flush remainder ∧ Respaced parse.remainder remainder := by
  cases parsed : g.parseFrom start line with
  | error fault =>
    obtain ⟨steps, tip, rest, course, hc⟩ := parseFrom_eq_error_iff.mp parsed
    obtain ⟨twins, behind, again, -⟩ := course.of_respaced plain hl ho h
    exact .inl ⟨fault, rfl, parseFrom_of_error again hc⟩
  | ok parse =>
    obtain ⟨steps, course, stops, hbindings, hpath⟩ := parseFrom_eq_ok_iff.mp parsed
    obtain ⟨twins, behind, again, hnames, hbound, hleft, hb, hlast⟩ :=
      course.of_respaced plain hl ho h
    refine .inr ⟨parse, behind, rfl, ?_, hleft, hb, hlast⟩
    rw [parseFrom_of_stops again (stops.of_respaced plain hleft hlast), hnames, hbound, hbindings,
      hpath]

end Grammar

namespace CommandSet

-- How many blanks stand between the words of a line, and which, makes no difference: the same
-- children are taken and bound to the same texts, and what is left differs in its blanks only.
theorem parse_of_respaced (s : CommandSet) (plain : s.grammar.PlainNames) {line other : Text}
    (h : Respaced line other) :
    s.isComplete line = s.isComplete other ∧
      ((∃ fault, s.parse line = .error fault ∧ s.parse other = .error fault) ∨
        ∃ parse twin, s.parse line = .ok parse ∧ s.parse other = .ok twin ∧
          parse.path = twin.path ∧ parse.tip = twin.tip ∧ parse.bindings = twin.bindings ∧
          Respaced parse.remainder twin.remainder ∧
          ((∀ c ∈ parse.remainder, isBlank c = false) →
            ∃ candidates, s.suggest parse = .ok candidates ∧ s.suggest twin = .ok candidates)) := by
  have hl := Text.flush_trimStart line
  have ho := Text.flush_trimStart other
  rcases Grammar.parseFrom_of_respaced plain hl ho h.trimmed s.grammar.top with
    ⟨fault, herror, htwin⟩ | ⟨parse, remainder, hparse, htwin, hleft, hb, hlast⟩
  · have line_fails : s.parse line = .error fault := herror
    have other_fails : s.parse other = .error fault := htwin
    refine ⟨?_, .inl ⟨fault, line_fails, other_fails⟩⟩
    rw [isComplete, isComplete, line_fails, other_fails]
  · have hempty : parse.remainder.isEmpty = remainder.isEmpty := by
      rw [Bool.eq_iff_iff, List.isEmpty_iff, List.isEmpty_iff, ← hleft.words_eq_nil_iff,
        hlast.words, hb.words_eq_nil_iff]
    refine ⟨?_, .inr ⟨parse, _, hparse, htwin, rfl, rfl, rfl, hlast, fun unbroken => ?_⟩⟩
    · rw [isComplete_of_parse hparse, isComplete_of_parse htwin, hempty]
    · obtain ⟨steps, -, stops, -⟩ := Grammar.parseFrom_eq_ok_iff.mp hparse
      obtain ⟨candidates, hs⟩ := stops.exists_suggest s.registries parse.remainder
      have same : parse.remainder = remainder := hlast.eq_of_unbroken hleft hb unbroken
      exact ⟨candidates, hs, by rw [← hs, same]; rfl⟩

-- Tabs, indentation and wide spaces around a redirect and an argument of three words; the word
-- under the cursor is an identifier that is still being typed.
theorem parse_of_respaced_sample :
    let s : CommandSet := ⟨Sample.grammar, Sample.registries⟩
    let line : Text := "execute as @e run setblock ~ ~1 ~ gra"
    let other : Text := " execute\tas  @e\u2003run \nsetblock\t~ ~1\u3000~   gra"
    Respaced line other ∧ s.isComplete line = s.isComplete other ∧
      ∃ parse twin, s.parse line = .ok parse ∧ s.parse other = .ok twin ∧
        parse.path = (["execute", "as", "targets", "run", "setblock", "pos"] : Path) ∧
        twin.path = parse.path ∧ twin.bindings = parse.bindings ∧
        ∃ candidates, s.suggest parse = .ok candidates ∧ s.suggest twin = .ok candidates := by
  intro s line other
  have plain : s.grammar.PlainNames := by decide +kernel
  have respaced : Respaced line other := by decide +kernel
  let pos := s.grammar.spotAt ["setblock", "pos"] (by decide +kernel)
  let found : Parse s.grammar :=
    ⟨pos, "gra", [("targets", "@e"), ("pos", "~ ~1 ~")],
      ["execute", "as", "targets", "run", "setblock", "pos"]⟩
  have located : s.parse line = .ok found := by decide +kernel
  obtain ⟨same, ⟨fault, herror, -⟩ | ⟨parse, twin, hparse, htwin, hpath, -, hbindings, -, hs⟩⟩ :=
    parse_of_respaced s plain respaced
  · cases located.symm.trans herror
  · cases located.symm.trans hparse
    exact ⟨respaced, same, _, twin, located, htwin, rfl, hpath.symm, hbindings.symm,
      hs (by decide)⟩

end CommandSet

end CommandCompletion
