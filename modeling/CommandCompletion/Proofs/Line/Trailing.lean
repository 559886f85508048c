import CommandCompletion.Proofs.Line.Choice
import CommandCompletion.Proofs.Line.Ending

namespace CommandCompletion

open Text (IsGap Flush Tight Settled trimEnd)

-- Only a literal takes all of a text that does not end in a blank.
theorem Node.Spelled.of_tight {node : Node} {name : Text} {phrase : Phrase} {bound : Option Text}
    (h : node.Spelled name phrase bound) (tight : Tight phrase.text) :
    node.kind = .literal ∧ phrase = [⟨name, []⟩] ∧ bound = none := by
  refine h.of_not_closed fun closed => ?_
  exact h.ne_nil (Phrase.eq_nil_of_text closed (tight.eq_nil (h.settled_text closed)))

-- What a child takes from a line it takes from it with blanks behind it, and the rest has these
-- blanks behind it unless it is empty.
theorem Node.bite?_append_gap {node : Node} {name line gap : Text} {bite : Bite}
    (tight : Tight line) (hg : IsGap gap) (h : node.bite? name line = some bite) :
    (bite.rest ≠ [] ∧ node.bite? name (line ++ gap) = some ⟨bite.bound, bite.rest ++ gap⟩) ∨
      (bite.rest = [] ∧ node.kind = .literal ∧
        node.bite? name (line ++ gap) = some ⟨none, []⟩) := by
  obtain ⟨phrase, spelled, rfl, flush, hend⟩ := Node.spelled_of_bite? h
  by_cases hrest : bite.rest = []
  · rw [hrest, List.append_nil] at tight
    obtain ⟨kind, rfl, hbound⟩ := spelled.of_tight tight
    have whole : Phrase.text [⟨name, []⟩] ++ bite.rest ++ gap = Phrase.text [⟨name, gap⟩] ++ [] := by
      simp [hrest]
    refine .inr ⟨hrest, kind, ?_⟩
    rw [whole]
    exact (Node.Spelled.literal kind hg).bite? Text.flush_nil fun _ => rfl
  · refine .inl ⟨hrest, ?_⟩
    have hflush : Flush (bite.rest ++ gap) := by
      obtain ⟨c, rest, hc⟩ := List.exists_cons_of_ne_nil hrest
      rw [hc] at flush ⊢
      exact flush
    rw [List.append_assoc]
    exact spelled.bite? hflush fun hopen => absurd (hend hopen) hrest

namespace Grammar

variable {g : Grammar} {spot tip : g.Spot} {line rest left gap : Text} {step : Step g}
  {steps : List (Step g)}

-- What takes nothing from a line with blanks behind it takes nothing from the line.
theorem bite?_eq_none_of_append_gap {node : Node} {name : Text} (tight : Tight line)
    (hg : IsGap gap) (h : node.bite? name (line ++ gap) = none) : node.bite? name line = none := by
  rw [← Option.not_isSome_iff_eq_none]
  intro takes
  obtain ⟨bite, hbite⟩ := Option.isSome_iff_exists.mp takes
  rcases Node.bite?_append_gap tight hg hbite with ⟨-, again⟩ | ⟨-, -, again⟩ <;>
    exact absurd (h.symm.trans again) (by simp)

-- A turn that leaves something does not get to the blanks at the end of the line.
theorem Turn.of_append_gap (tight : Tight line) (hg : IsGap gap)
    (turn : g.Turn spot (line ++ gap) step rest) (hne : rest ≠ []) :
    ∃ kept, kept ≠ [] ∧ rest = kept ++ gap ∧ g.Turn spot line step kept := by
  obtain ⟨phrase, spelled, htaken, flush, hend⟩ := turn.spelled
  have visible : ∀ behind, IsGap (behind ++ rest) → False := fun behind blank =>
    hne (flush.eq_nil fun c hc => blank c (List.mem_append_right _ hc))
  rcases List.append_eq_append_iff.mp turn.whole with ⟨kept, htaken', rfl⟩ | ⟨kept, rfl, rfl⟩
  · exact absurd hg fun blank => visible kept blank
  · have hkept : kept ≠ [] := by
      rintro rfl
      exact visible [] hg
    refine ⟨kept, hkept, rfl, ?_, ?_, rfl⟩
    · obtain ⟨earlier, later, hc, passed⟩ := turn.first
      refine ⟨earlier, later, hc, fun pair hp => ?_⟩
      exact bite?_eq_none_of_append_gap tight hg (passed pair hp)
    · have hflush : Flush (kept ++ []) := flush.of_append Text.flush_nil
      rw [List.append_nil] at hflush
      rw [htaken]
      exact spelled.bite? hflush fun hopen => absurd (hend hopen) (by simp [hkept])

theorem Course.of_append_gap (tight : Tight line) (hne : line ≠ []) (hg : IsGap gap)
    (course : g.Course spot (line ++ gap) steps tip left) (hleft : left ≠ []) :
    ∃ kept, kept ≠ [] ∧ left = kept ++ gap ∧ g.Course spot line steps tip kept := by
  generalize hwhole : line ++ gap = whole at course
  induction course generalizing line with
  | nil => exact ⟨line, hne, hwhole.symm, .nil _ _⟩
  | @cons spot tip whole rest left step steps turn others ih =>
    subst hwhole
    have hrest : rest ≠ [] := by
      rintro rfl
      exact hleft others.of_nil.2
    obtain ⟨middle, hmiddle, rfl, first⟩ := turn.of_append_gap tight hg hrest
    have htight : Tight middle := (first.whole ▸ tight).of_append
    obtain ⟨kept, hkept, rfl, course⟩ := ih htight hmiddle hleft rfl
    exact ⟨kept, hkept, rfl, .cons first course⟩

theorem Stops.of_append_gap (tight : Tight line) (hg : IsGap gap)
    (stops : g.Stops spot (line ++ gap)) : g.Stops spot line := by
  obtain ⟨children, hc, hnone⟩ := stops
  exact ⟨children, hc, fun pair hp => bite?_eq_none_of_append_gap tight hg (hnone pair hp)⟩

-- The last turn of a course that leaves nothing takes the blanks at the end of the line, and the
-- turns before it can be taken without them.
theorem Course.exists_last (tight : Tight line) (hne : line ≠ []) (hg : IsGap gap)
    (course : g.Course spot (line ++ gap) steps tip []) :
    ∃ before last here kept, steps = before ++ [last] ∧ tip = last.spot ∧ kept ≠ [] ∧
      Tight kept ∧ g.Course spot line before here kept ∧ g.Turn here (kept ++ gap) last [] := by
  rcases List.eq_nil_or_concat' steps with rfl | ⟨before, last, rfl⟩
  · have whole := course.whole
    simp [hne] at whole
  · obtain ⟨here, rest, front, back⟩ := course.cut
    cases back with
    | cons turn others =>
      cases others
      have hrest : rest ≠ [] := List.ne_nil_of_length_pos turn.length_lt
      obtain ⟨kept, hkept, rfl, again⟩ := front.of_append_gap tight hne hg hrest
      have htight : Tight kept := (again.whole ▸ tight).of_append
      exact ⟨before, last, here, kept, rfl, rfl, hkept, htight, again, turn⟩

-- A literal at the end of the line needs no blanks behind it.
theorem Turn.of_literal (tight : Tight line) (hg : IsGap gap)
    (turn : g.Turn spot (line ++ gap) step []) (kind : step.spot.node.kind = .literal)
    (hname : Tight step.name) : g.Turn spot line { step with taken := line } [] := by
  obtain ⟨name, child, bound, taken⟩ := step
  obtain ⟨earlier, later, hc, passed⟩ := turn.first
  obtain ⟨phrase, spelled, htaken, -, -⟩ := turn.spelled
  simp only at kind hname htaken
  have whole : line ++ gap = phrase.text := by simpa [htaken] using turn.whole
  cases spelled with
  | argument other => simp [kind] at other
  | @literal behind _ blank =>
    have hline : line = name := calc
      line = trimEnd (line ++ gap) := (Text.trimEnd_append_gap tight hg).symm
      _ = trimEnd (name ++ behind) := by simp [whole]
      _ = name := Text.trimEnd_append_gap hname blank
    refine ⟨⟨earlier, later, hc, fun pair hp => ?_⟩, ?_, by simp⟩
    · exact bite?_eq_none_of_append_gap tight hg (passed pair hp)
    · have spelled : child.node.Spelled name [⟨name, []⟩] none := .literal kind (by simp [IsGap])
      simpa [hline] using spelled.bite? Text.flush_nil fun _ => rfl

-- An argument does need them, and nothing behind it can be taken in its place.
theorem Turn.stops_of_argument (last : g.ArgumentLast) (tight : Tight line) (hg : IsGap gap)
    (turn : g.Turn spot (line ++ gap) step [])
    (kind : step.spot.node.kind = .argument) : g.Stops spot line := by
  obtain ⟨earlier, later, hc, passed⟩ := turn.first
  refine ⟨_, hc, fun pair hp => ?_⟩
  rcases List.mem_append.mp hp with hbefore | hbehind
  · exact bite?_eq_none_of_append_gap tight hg (passed pair hbefore)
  rcases List.mem_cons.mp hbehind with rfl | hbehind
  · rw [← Option.not_isSome_iff_eq_none]
    intro takes
    obtain ⟨bite, hbite⟩ := Option.isSome_iff_exists.mp takes
    rcases Node.bite?_append_gap tight hg hbite with ⟨hrest, again⟩ | ⟨-, other, -⟩
    · have hbites := Option.some.inj (turn.bite.symm.trans again)
      simp only [Bite.mk.injEq] at hbites
      exact absurd (List.append_eq_nil_iff.mp hbites.2.symm).1 hrest
    · simp [kind] at other
  · have behind := (List.pairwise_cons.mp (List.pairwise_append.mp (last.pairwise hc)).2.1).1
    obtain ⟨hliteral, hargument⟩ := behind pair hbehind kind
    cases okind : pair.2.node.kind with
    | root => simp [Node.bite?, okind]
    | literal => exact absurd okind hliteral
    | argument => exact absurd okind hargument

end Grammar

-- What parses does so to the end of its line without the blanks there: either something is left,
-- or the line ends in a literal whose name does not end in a blank.
def Parse.Firm {g : Grammar} (parse : Parse g) : Prop :=
  parse.remainder = [] →
    parse.tip.node.kind = .literal ∧ ∀ name ∈ parse.path.getLast?, Tight name

namespace Grammar

variable {g : Grammar} {start : g.Spot} {line gap : Text} {parse : Parse g}

-- Then the line without the blanks is parsed in the same way.
theorem parseFrom_of_append_gap (tight : Tight line) (hne : line ≠ []) (hg : IsGap gap)
    (parsed : g.parseFrom start (line ++ gap) = .ok parse) (firm : parse.Firm) :
    g.parseFrom start line = .ok { parse with remainder := trimEnd parse.remainder } ∧
      (trimEnd parse.remainder = [] → parse.remainder = []) := by
  obtain ⟨tip, remainder, bindings, path⟩ := parse
  obtain ⟨steps, course, stops, hbindings, hpath⟩ := parseFrom_eq_ok_iff.mp parsed
  simp only at course stops hbindings hpath
  by_cases hleft : remainder = []
  · subst hleft
    obtain ⟨before, last, here, kept, rfl, rfl, hkept, htight, front, turn⟩ :=
      course.exists_last tight hne hg
    obtain ⟨kind, hname⟩ := firm rfl
    have hlast : Tight last.name := hname last.name (by simp [hpath])
    have again := front.append (.single (turn.of_literal htight hg kind hlast))
    have same : Step.binding? { last with taken := kept } = last.binding? := rfl
    refine ⟨?_, fun _ => rfl⟩
    rw [parseFrom_of_stops again stops, hbindings, hpath]
    simp [List.filterMap_cons, same, trimEnd]
  · obtain ⟨kept, hkept, rfl, again⟩ := course.of_append_gap tight hne hg hleft
    have htight : Tight kept := (again.whole ▸ tight).of_append
    have htrim : trimEnd (kept ++ gap) = kept := Text.trimEnd_append_gap htight hg
    refine ⟨?_, fun hnil => absurd (htrim.symm.trans hnil) hkept⟩
    rw [parseFrom_of_stops again (stops.of_append_gap htight hg), hbindings, hpath, htrim]

-- Where an argument ends the line, its last word is still being typed without the blanks.
theorem parseFrom_of_argument (last : g.ArgumentLast) (tight : Tight line) (hne : line ≠ [])
    (hg : IsGap gap) (parsed : g.parseFrom start (line ++ gap) = .ok parse)
    (whole : parse.remainder = []) (kind : parse.tip.node.kind = .argument) :
    ∃ other, g.parseFrom start line = .ok other ∧ other.remainder ≠ [] := by
  obtain ⟨tip, remainder, bindings, path⟩ := parse
  obtain ⟨steps, course, stops, -, -⟩ := parseFrom_eq_ok_iff.mp parsed
  simp only at course whole kind
  subst whole
  obtain ⟨before, step, here, kept, rfl, rfl, hkept, htight, front, turn⟩ :=
    course.exists_last tight hne hg
  have still := turn.stops_of_argument last htight hg kind
  exact ⟨_, parseFrom_of_stops front still, hkept⟩

end Grammar

namespace CommandSet

variable {s : CommandSet} {line : Text} {parse : Parse s.grammar}

theorem parse_trim : s.parse (Text.trim line) = s.grammar.parse (Text.trim line) :=
  parse_of_flush (Text.flush_trim line)

theorem parse_trim_of_firm (hne : Text.trim line ≠ []) (parsed : s.parse line = .ok parse)
    (firm : parse.Firm) :
    s.parse (Text.trim line) = .ok { parse with remainder := trimEnd parse.remainder } ∧
      (trimEnd parse.remainder = [] → parse.remainder = []) := by
  obtain ⟨gap, hg, he⟩ := Text.exists_gap_behind (Text.trimStart line)
  have whole : s.grammar.parseFrom s.grammar.top (Text.trim line ++ gap) = .ok parse := by
    rw [Text.trim, ← he]
    exact parsed
  rw [parse_trim]
  exact Grammar.parseFrom_of_append_gap (Text.tight_trimEnd _) hne hg whole firm

-- Trimming a line whose parse is firm leaves it complete or incomplete.
theorem isComplete_trim_of_firm (hne : Text.trim line ≠ []) (parsed : s.parse line = .ok parse)
    (firm : parse.Firm) : s.isComplete (Text.trim line) = s.isComplete line := by
  obtain ⟨trimmed, hnil⟩ := parse_trim_of_firm hne parsed firm
  have hempty : (trimEnd parse.remainder).isEmpty = parse.remainder.isEmpty := by
    by_cases hrest : parse.remainder = []
    · rw [hrest]
      rfl
    · have htrim : trimEnd parse.remainder ≠ [] := fun he => hrest (hnil he)
      rw [List.isEmpty_eq_false_iff.mpr hrest, List.isEmpty_eq_false_iff.mpr htrim]
  rw [isComplete_of_parse parsed, isComplete_of_parse trimmed, hempty]

-- A line that ends in an argument is not complete once it is trimmed.
theorem isComplete_trim_of_argument (last : s.grammar.ArgumentLast) (hne : Text.trim line ≠ [])
    (parsed : s.parse line = .ok parse) (whole : parse.remainder = [])
    (kind : parse.tip.node.kind = .argument) : s.isComplete (Text.trim line) = .ok false := by
  obtain ⟨gap, hg, he⟩ := Text.exists_gap_behind (Text.trimStart line)
  have untrimmed : s.grammar.parseFrom s.grammar.top (Text.trim line ++ gap) = .ok parse := by
    rw [Text.trim, ← he]
    exact parsed
  obtain ⟨other, hother, hrest⟩ :=
    Grammar.parseFrom_of_argument last (Text.tight_trimEnd _) hne hg untrimmed whole kind
  rw [isComplete_of_parse (parse_trim.trans hother)]
  simp [hrest]

end CommandSet

end CommandCompletion
