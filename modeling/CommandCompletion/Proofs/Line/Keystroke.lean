import CommandCompletion.Proofs.Line.Choice
import CommandCompletion.Proofs.Line.Ending
import CommandCompletion.Proofs.Line.Narrowing
import CommandCompletion.Sample

namespace CommandCompletion

open Text (IsWord Flush Settled isBlank)

variable {c : CodePoint}

-- One more visible character either stands at the end of what a child leaves, or it completes the
-- name of a literal at the end of the line.
theorem Node.bite?_append_ink (ink : isBlank c = false) {node : Node} {name line : Text}
    {bite : Bite} (h : node.bite? name (line ++ [c]) = some bite) :
    (∃ rest, node.bite? name line = some ⟨bite.bound, rest⟩ ∧ bite.rest = rest ++ [c]) ∨
      (node.kind = .literal ∧ name = line ++ [c] ∧ bite = ⟨none, []⟩) := by
  obtain ⟨bound, rest⟩ := bite
  obtain ⟨phrase, spelled, whole, flush, hend⟩ := Node.spelled_of_bite? h
  simp only at spelled whole flush hend
  rcases List.eq_nil_or_concat' rest with rfl | ⟨kept, last, rfl⟩
  · refine .inr ?_
    rw [List.append_nil] at whole
    have hopen : ¬phrase.Closed := by
      intro closed
      have blank := spelled.settled_text closed c (by rw [← whole]; simp)
      simp [blank] at ink
    obtain ⟨kind, rfl, rfl⟩ := spelled.of_not_closed hopen
    exact ⟨kind, by simpa using whole.symm, rfl⟩
  · refine .inl ⟨kept, ?_, ?_⟩
    · rw [← List.append_assoc, List.append_singleton_inj] at whole
      obtain ⟨rfl, rfl⟩ := whole
      have hkept : Flush (kept ++ []) := flush.of_append Text.flush_nil
      rw [List.append_nil] at hkept
      exact spelled.bite? hkept fun hopen => absurd (hend hopen) (by simp)
    · rw [← List.append_assoc, List.append_singleton_inj] at whole
      rw [whole.2]

namespace Grammar

variable {g : Grammar} {spot tip : g.Spot} {line rest left : Text} {step : Step g}
  {steps : List (Step g)}

-- A turn that is ended is taken again when a character is typed behind the line. A child in front
-- that takes something now would be a literal whose name has the blank in it that ends the turn.
theorem Turn.append_ink (plain : g.PlainNames) (ink : isBlank c = false)
    (turn : g.Turn spot line step rest) (settled : rest = [] → Settled line) :
    g.Turn spot (line ++ [c]) step (rest ++ [c]) := by
  obtain ⟨earlier, later, hc, passed⟩ := turn.first
  obtain ⟨phrase, spelled, htaken, flush, hend⟩ := turn.spelled
  have hname : step.spot.node.kind = .literal → IsWord step.name := plain.isWord hc (by simp)
  have whole : line = phrase.text ++ rest := htaken ▸ turn.whole
  have closed : phrase.Closed := by
    by_contra hopen
    have hrest := hend hopen
    have hsettled := settled hrest
    rw [whole, hrest, List.append_nil] at hsettled
    exact hopen (spelled.closed_of_settled hname hsettled)
  have hne : phrase.text ≠ [] := by
    obtain ⟨portion, others, rfl, hw, -⟩ := spelled.first_word hname hend
    simp [hw.1]
  refine ⟨⟨earlier, later, hc, ?_⟩, ?_, ?_⟩
  · rintro ⟨other, sibling⟩ hmem
    by_contra htakes
    obtain ⟨bite, hbite⟩ := Option.ne_none_iff_exists'.mp htakes
    rcases Node.bite?_append_ink ink hbite with ⟨kept, hbefore, -⟩ | ⟨kind, rfl, -⟩
    · rw [passed _ hmem] at hbefore
      cases hbefore
    · have hword : IsWord (line ++ [c]) :=
        plain.isWord hc (List.mem_append_left _ hmem) kind
      rw [whole, List.append_assoc] at hword
      exact (hword.of_append hne).not_settled (spelled.settled_text closed)
  · have hflush : Flush (rest ++ [c]) := by
      have hink : Flush [c] := by simpa [Flush] using ink
      rw [← List.append_nil rest] at flush
      exact flush.of_append hink
    rw [whole, List.append_assoc]
    exact spelled.bite? hflush fun hopen => absurd closed hopen
  · rw [turn.whole, List.append_assoc]

-- So are the turns of a whole course, unless its last one is that of a literal at the end of the
-- line.
theorem Course.append_ink (plain : g.PlainNames) (ink : isBlank c = false)
    (course : g.Course spot line steps tip left) (settled : left = [] → Settled line) :
    g.Course spot (line ++ [c]) steps tip (left ++ [c]) := by
  induction course with
  | nil => exact .nil _ _
  | @cons spot tip line rest left step steps turn others ih =>
    have hturn : rest = [] → Settled line := by
      rintro rfl
      exact settled others.of_nil.2
    have hrest : left = [] → Settled rest := by
      intro hleft
      exact (turn.whole ▸ settled hleft).of_append
    exact .cons (turn.append_ink plain ink hturn) (ih hrest)

-- Where a walk stopped it stops again, or it goes on to a literal whose name has just been
-- completed.
theorem Stops.append_ink (ink : isBlank c = false) (stops : g.Stops tip left) :
    g.Stops tip (left ++ [c]) ∨
      ∃ child taken, (∃ children, g.childrenOf tip = .ok children ∧
          (left ++ [c], child) ∈ children) ∧ child.node.kind = .literal ∧
        g.Turn tip (left ++ [c]) ⟨left ++ [c], child, none, taken⟩ [] := by
  obtain ⟨children, hc, hnone⟩ := stops
  rcases walk_cases tip (left ++ [c]) with ⟨fault, herror⟩ | again | ⟨step, rest, turn⟩
  · rw [hc] at herror
    cases herror
  · exact .inl again
  · refine .inr ?_
    obtain ⟨others, ho, hmem⟩ := turn.mem_childrenOf
    cases hc.symm.trans ho
    obtain ⟨name, child, bound, taken⟩ := step
    rcases Node.bite?_append_ink ink turn.bite with ⟨kept, hbefore, -⟩ | ⟨kind, hname, hbite⟩
    · rw [hnone _ hmem] at hbefore
      cases hbefore
    · simp only [Bite.mk.injEq] at hname hbite
      obtain ⟨rfl, rfl⟩ := hbite
      subst hname
      exact ⟨child, taken, ⟨children, hc, hmem⟩, kind, turn⟩

-- A visible character typed behind a line does not change what was parsed. It goes on the
-- remainder and leaves some of the candidates, or it completes the name of a literal, which is
-- then taken.
theorem parse_of_keystroke (g : Grammar) (plain : g.PlainNames) (acyclic : g.Acyclic)
    {line : Text} {parse : Parse g} (parsed : g.parse line = .ok parse)
    (settled : Settled line ∨ parse.remainder ≠ []) {c : CodePoint} (ink : isBlank c = false) :
    ∃ next, g.parse (line ++ [c]) = .ok next ∧
      ((next.path = parse.path ∧ next.tip = parse.tip ∧ next.bindings = parse.bindings ∧
          next.remainder = parse.remainder ++ [c] ∧
          ∀ registries, ∃ candidates fewer,
            g.suggest registries parse.tip parse.remainder = .ok candidates ∧
            g.suggest registries next.tip next.remainder = .ok fewer ∧
            fewer.Sublist candidates) ∨
        (next.path = parse.path ++ [parse.remainder ++ [c]] ∧ next.remainder = [] ∧
          next.bindings = parse.bindings ∧ next.tip.node.kind = .literal ∧
          ∃ children, g.childrenOf parse.tip = .ok children ∧
            (parse.remainder ++ [c], next.tip) ∈ children)) := by
  obtain ⟨steps, course, stops, hbindings, hpath⟩ := parseFrom_eq_ok_iff.mp parsed
  have again := course.append_ink plain ink fun hnil => settled.resolve_right (· hnil)
  rcases stops.append_ink ink with still | ⟨child, taken, ⟨children, hc, hmem⟩, kind, turn⟩
  · refine ⟨_, parseFrom_of_stops again still, .inl ⟨hpath.symm, rfl, hbindings.symm, rfl, ?_⟩⟩
    intro registries
    obtain ⟨candidates, hs⟩ := stops.exists_suggest registries parse.remainder
    obtain ⟨fewer, hf, sublist⟩ := exists_suggest_sublist (List.prefix_append _ [c]) hs
    exact ⟨candidates, fewer, hs, hf, sublist⟩
  · obtain ⟨ending, hending⟩ := acyclic.exists_childrenOf child
    have whole := again.append (.single turn)
    refine ⟨_, parseFrom_of_stops whole (stops_nil hending), .inr ⟨?_, rfl, ?_, kind, ?_⟩⟩
    · simp [hpath]
    · simp [hbindings, List.filterMap_cons, Step.binding?]
    · exact ⟨children, hc, hmem⟩

-- The last letter of a literal's name, behind an argument whose redirect offers the literal.
theorem parse_of_keystroke_sample :
    let g := Sample.grammar
    let tip := g.spotAt ["execute", "as", "targets"] (by decide +kernel)
    let run := g.spotAt ["execute", "run"] (by decide +kernel)
    let parse : Parse g := ⟨tip, "ru", [("targets", "@e")], ["execute", "as", "targets"]⟩
    let next : Parse g := ⟨run, [], [("targets", "@e")], ["execute", "as", "targets", "run"]⟩
    g.parse ("execute as @e ru" : Text) = .ok parse ∧
      g.parse ("execute as @e ru" ++ "n" : Text) = .ok next ∧
      next.path = parse.path ++ [parse.remainder ++ "n"] ∧ next.bindings = parse.bindings ∧
      ∃ children, g.childrenOf tip = .ok children ∧ (parse.remainder ++ "n", run) ∈ children := by
  intro g tip run parse next
  have plain : g.PlainNames := by decide +kernel
  have finite : ∀ entry ∈ g.root.walk [], (g.root.hop? 2 entry.2).isNone := by decide +kernel
  have parsed : g.parse ("execute as @e ru" : Text) = .ok parse := by decide +kernel
  have typed : g.parse ("execute as @e ru" ++ "n" : Text) = .ok next := by decide +kernel
  have left : parse.remainder ≠ [] := by decide
  obtain ⟨other, hother, ⟨hpath, -⟩ | ⟨hpath, -, hbindings, -, children, hc, hmem⟩⟩ :=
    parse_of_keystroke g plain (acyclic_of_hop?_isNone finite) parsed (.inr left)
      (c := .char 'n') (by decide)
  · cases typed.symm.trans hother
    exact absurd hpath (by decide)
  · cases typed.symm.trans hother
    exact ⟨parsed, typed, hpath, hbindings, children, hc, hmem⟩

end Grammar

end CommandCompletion
