import CommandCompletion.Proofs.Data.Dict
import CommandCompletion.Proofs.Line.Ending
import CommandCompletion.Proofs.Line.Lookup

namespace CommandCompletion

open Text (IsGap Flush spaced)

variable {g : Grammar}

-- What a child takes from the start of a line, what it is bound to, and what it leaves. A literal
-- takes its exact name where blanks or the end of the line follow, an argument as many complete
-- words as it is wide.
inductive Node.Takes (node : Node) (name : Text) : Text → Option Text → Text → Prop
  | literal {gap rest : Text} (kind : node.kind = .literal) (blank : IsGap gap)
      (flush : Flush rest) (ended : gap = [] → rest = []) :
      node.Takes name (name ++ (gap ++ rest)) none rest
  | argument {phrase : Phrase} {rest : Text} (kind : node.kind = .argument)
      (count : phrase.length = node.argument.width) (full : ∀ portion ∈ phrase, portion.Full)
      (flush : Flush rest) :
      node.Takes name (phrase.text ++ rest) (some (spaced phrase.words)) rest

theorem Node.takes_iff {node : Node} {name line rest : Text} {bound : Option Text} :
    node.Takes name line bound rest ↔ node.bite? name line = some ⟨bound, rest⟩ := by
  constructor
  · rintro (⟨kind, blank, flush, ended⟩ | ⟨kind, count, full, flush⟩)
    · have taken : takeLiteral name (name ++ (_ ++ rest)) = some rest :=
        takeLiteral_eq_some_iff.mpr ⟨_, blank, rfl, flush, ended⟩
      simp only [Node.bite?, kind, taken, Option.map_some]
    · simp [Node.bite?, kind, ← count, takeWords_of_phrase full flush]
  · intro h
    obtain ⟨phrase, spelled, rfl, flush, ended⟩ := Node.spelled_of_bite? h
    cases spelled with
    | @literal gap kind blank =>
      have hrest : Phrase.text [⟨name, gap⟩] ++ rest = name ++ (gap ++ rest) := by simp
      rw [hrest]
      exact .literal kind blank flush fun hgap => ended (by simp [Phrase.Closed, hgap])
    | argument kind count full => exact .argument kind count full flush

theorem Node.forall_not_takes_iff {node : Node} {name line : Text} :
    (∀ bound rest, ¬node.Takes name line bound rest) ↔ node.bite? name line = none := by
  simp only [takes_iff, Option.eq_none_iff_forall_ne_some]
  exact ⟨fun h bite => h bite.bound bite.rest, fun h bound rest => h ⟨bound, rest⟩⟩

namespace Grammar

-- How a line is parsed, told from the end backwards: where no child of the node that redirects
-- lead to takes anything, the line is left as it is. Else the first child that takes something
-- stands in front of what the rest of the line gives behind it, whose bindings are laid over the
-- child's own.
inductive Descends (g : Grammar) : g.Spot → Text → Parse g → Prop
  | stop {spot target : g.Spot} {line : Text} (resolved : spot.resolve = .ok target)
      (none : ∀ pair ∈ g.ownChildren target,
        ∀ bound rest, ¬pair.2.node.Takes pair.1 line bound rest) :
      Descends g spot line ⟨spot, line, [], []⟩
  | step {spot target child : g.Spot} {line name rest : Text} {bound : Option Text}
      {earlier later : List (Text × g.Spot)} {deeper : Parse g}
      (resolved : spot.resolve = .ok target)
      (children : g.ownChildren target = earlier ++ (name, child) :: later)
      (none : ∀ pair ∈ earlier, ∀ bound rest, ¬pair.2.node.Takes pair.1 line bound rest)
      (takes : child.node.Takes name line bound rest) (descends : Descends g child rest deeper) :
      Descends g spot line
        ⟨deeper.tip, deeper.remainder,
          Dict.insertAll (bound.map (name, ·)).toList deeper.bindings, name :: deeper.path⟩

theorem stops_iff {spot : g.Spot} {line : Text} :
    g.Stops spot line ↔ ∃ target, spot.resolve = .ok target ∧
      ∀ pair ∈ g.ownChildren target, ∀ bound rest, ¬pair.2.node.Takes pair.1 line bound rest := by
  simp only [Stops, childrenOf_eq_ok_iff, Node.forall_not_takes_iff]
  constructor
  · rintro ⟨children, ⟨target, resolved, rfl⟩, hnone⟩
    exact ⟨target, resolved, hnone⟩
  · rintro ⟨target, resolved, hnone⟩
    exact ⟨_, ⟨target, resolved, rfl⟩, hnone⟩

theorem ofList_binding?_cons (step : Step g) (steps : List (Step g)) :
    Dict.ofList ((step :: steps).filterMap Step.binding?) =
      Dict.insertAll (step.bound.map (step.name, ·)).toList
        (Dict.ofList (steps.filterMap Step.binding?)) := by
  have hfirst : Dict.ofList (step.bound.map (step.name, ·)).toList =
      (step.bound.map (step.name, ·)).toList := by
    cases step.bound <;> rfl
  have happend : (step :: steps).filterMap Step.binding? =
      (step.bound.map (step.name, ·)).toList ++ steps.filterMap Step.binding? := by
    cases hb : step.bound <;> simp [Step.binding?, hb]
  rw [happend, Dict.ofList_append, hfirst]

-- What a course of turns comes to is what descending along it gives.
theorem Course.descends {start tip : g.Spot} {line left : Text} {steps : List (Step g)}
    (course : g.Course start line steps tip left) (stops : g.Stops tip left) :
    g.Descends start line
      ⟨tip, left, Dict.ofList (steps.filterMap Step.binding?), steps.map (·.name)⟩ := by
  induction course with
  | nil spot line =>
    obtain ⟨target, resolved, hnone⟩ := stops_iff.mp stops
    exact .stop resolved hnone
  | cons turn others ih =>
    obtain ⟨earlier, later, hc, hnone⟩ := turn.first
    obtain ⟨target, resolved, hchildren⟩ := childrenOf_eq_ok_iff.mp hc
    rw [ofList_binding?_cons]
    exact .step resolved hchildren.symm
      (fun pair hpair => Node.forall_not_takes_iff.mpr (hnone pair hpair))
      (Node.takes_iff.mpr turn.bite) (ih stops)

-- Each step down is a turn that a walk takes.
theorem Descends.exists_course {start : g.Spot} {line : Text} {parse : Parse g}
    (h : g.Descends start line parse) :
    ∃ steps, g.Course start line steps parse.tip parse.remainder ∧
      g.Stops parse.tip parse.remainder ∧
        parse.bindings = Dict.ofList (steps.filterMap Step.binding?) ∧
          parse.path = steps.map (·.name) := by
  induction h with
  | stop resolved hnone => exact ⟨[], .nil _ _, stops_iff.mpr ⟨_, resolved, hnone⟩, rfl, rfl⟩
  | @step spot target child line name rest bound earlier later deeper resolved hchildren hnone
      takes _ ih =>
    obtain ⟨steps, course, stops, hbindings, hpath⟩ := ih
    have hbite := Node.takes_iff.mp takes
    obtain ⟨phrase, -, hline, -, -⟩ := Node.spelled_of_bite? hbite
    have turn : g.Turn spot line ⟨name, child, bound, phrase.text⟩ rest :=
      ⟨⟨earlier, later, childrenOf_eq_ok_iff.mpr ⟨target, resolved, hchildren.symm⟩,
        fun pair hpair => Node.forall_not_takes_iff.mp (hnone pair hpair)⟩, hbite, hline⟩
    refine ⟨_, .cons turn course, stops, ?_, ?_⟩
    · rw [ofList_binding?_cons, ← hbindings]
    · rw [List.map_cons, ← hpath]

theorem descends_iff {start : g.Spot} {line : Text} {parse : Parse g} :
    g.Descends start line parse ↔ g.parseFrom start line = .ok parse := by
  rw [parseFrom_eq_ok_iff]
  constructor
  · exact Descends.exists_course
  · rintro ⟨steps, course, stops, hbindings, hpath⟩
    have hdescends := course.descends stops
    rwa [← hbindings, ← hpath] at hdescends

end Grammar

namespace Walk

-- The text that is left after so many steps of a walk along a line.
def textAfter (walk : Walk g) (line : Text) (count : Nat) : Text :=
  line.drop ((walk.steps.take count).flatMap (·.taken)).length

def bindingsAfter (walk : Walk g) (count : Nat) : Dict Text :=
  (walk.steps.take count).foldl bind []

end Walk

namespace Grammar

-- Up to any of its steps a walk is a course, and from there on the rest of it is another.
theorem Course.cut_walk {start tip : g.Spot} {line left : Text}
    (course : g.Course start line (g.walk start line).steps tip left) (count : Nat) :
    g.Course start line ((g.walk start line).steps.take count)
        ((g.walk start line).spotAfter start count) ((g.walk start line).textAfter line count) ∧
      g.Course ((g.walk start line).spotAfter start count)
        ((g.walk start line).textAfter line count) ((g.walk start line).steps.drop count)
        tip left := by
  have whole := course
  rw [← List.take_append_drop count (g.walk start line).steps] at whole
  obtain ⟨spot, here, before, after⟩ := whole.cut
  have hspot : (g.walk start line).spotAfter start count = spot := before.tip_eq
  have hhere : (g.walk start line).textAfter line count = here := by
    let taken := ((g.walk start line).steps.take count).flatMap (·.taken)
    have hdrop : (taken ++ here).drop taken.length = here := List.drop_left
    rwa [← before.whole] at hdrop
  rw [hspot, hhere]
  exact ⟨before, after⟩

-- Where a walk is taken up again after any of its steps, it goes on as it did.
theorem parseFrom_resumed {start : g.Spot} {line : Text} {parse : Parse g}
    (parsed : g.parseFrom start line = .ok parse) (count : Nat) :
    ∃ resumed, g.parseFrom ((g.walk start line).spotAfter start count)
        ((g.walk start line).textAfter line count) = .ok resumed ∧
      resumed.tip = parse.tip ∧ resumed.remainder = parse.remainder ∧
      resumed.path = parse.path.drop count ∧
      ((g.walk start line).bindingsAfter count).insertAll resumed.bindings = parse.bindings := by
  obtain ⟨course, stops, hpath⟩ := exists_course_of_parseFrom parsed
  have after := (course.cut_walk count).2
  have hbindings : parse.bindings =
      Dict.ofList ((g.walk start line).steps.filterMap Step.binding?) := by
    rw [parseFrom_of_stops course stops] at parsed
    exact congrArg Parse.bindings (Except.ok.inj parsed).symm
  refine ⟨_, parseFrom_of_stops after stops, rfl, rfl, ?_, ?_⟩
  · rw [hpath, List.map_drop]
  · rw [Walk.bindingsAfter, Walk.foldl_bind, ← Dict.ofList, ← Dict.ofList_append,
      ← List.filterMap_append, List.take_append_drop, hbindings]

-- Without circles of redirects every line is parsed, and the result is the one that descending
-- gives. After any number of steps the way to the place and the text reached is the beginning of
-- the path, and parsing from there gives the rest.
theorem parseFrom_laws (acyclic : g.Acyclic) (start : g.Spot) (line : Text) :
    ∃ parse, g.parseFrom start line = .ok parse ∧
      (∀ other, g.Descends start line other ↔ other = parse) ∧
      ∀ count ≤ parse.path.length,
        g.findFrom start (parse.path.take count) =
            .ok (some ((g.walk start line).spotAfter start count)) ∧
          ∃ resumed, g.parseFrom ((g.walk start line).spotAfter start count)
              ((g.walk start line).textAfter line count) = .ok resumed ∧
            resumed.tip = parse.tip ∧ resumed.remainder = parse.remainder ∧
            resumed.path = parse.path.drop count ∧
            ((g.walk start line).bindingsAfter count).insertAll resumed.bindings =
              parse.bindings := by
  obtain ⟨parse, parsed⟩ := acyclic.exists_parseFrom start line
  refine ⟨parse, parsed, fun other => ?_, fun count _ => ⟨?_, parseFrom_resumed parsed count⟩⟩
  · rw [descends_iff, parsed, Except.ok.injEq, eq_comm]
  · obtain ⟨course, -, hpath⟩ := exists_course_of_parseFrom parsed
    rw [hpath]
    exact course.findFrom_take count

-- A line that binds the same name twice, once on each side of a redirect.
theorem parseFrom_laws_sample :
    let g := Sample.grammar
    let line : Text := "execute as @e as  @p ru"
    let walk := g.walk g.top line
    g.Acyclic ∧ (∃ parse, g.Descends g.top line parse ∧
      parse.path = ["execute", "as", "targets", "as", "targets"] ∧
      parse.bindings = ([("targets", "@p")] : Dict Text)) ∧
    walk.textAfter line 3 = "as  @p ru" ∧ walk.bindingsAfter 3 = ([("targets", "@e")] : Dict Text) ∧
    ∃ resumed, g.parseFrom (walk.spotAfter g.top 3) "as  @p ru" = .ok resumed ∧
      resumed.path = ["as", "targets"] := by
  intro g line walk
  have finite : ∀ entry ∈ g.root.walk [], (g.root.hop? 2 entry.2).isNone := by decide +kernel
  have acyclic := acyclic_of_hop?_isNone finite
  have htext : walk.textAfter line 3 = "as  @p ru" := by decide +kernel
  have hbound : walk.bindingsAfter 3 = ([("targets", "@e")] : Dict Text) := by decide +kernel
  have hread : (g.parseFrom g.top line).map (fun parse => (parse.path, parse.bindings)) =
      .ok (["execute", "as", "targets", "as", "targets"], [("targets", "@p")]) := by
    decide +kernel
  obtain ⟨parse, parsed, hdescends, hresumed⟩ := parseFrom_laws acyclic g.top line
  obtain ⟨other, hother, he⟩ := map_eq_ok_iff.mp hread
  cases parsed.symm.trans hother
  obtain ⟨hpath, hbindings⟩ := Prod.mk.inj he
  obtain ⟨-, resumed, hagain, -, -, hrest, -⟩ := hresumed 3 (by rw [hpath]; decide)
  rw [hpath] at hrest
  refine ⟨acyclic, ⟨parse, (hdescends parse).mpr rfl, hpath, hbindings⟩, htext, hbound,
    resumed, ?_, hrest⟩
  rw [← htext]
  exact hagain

end Grammar

end CommandCompletion
