import CommandCompletion.Proofs.Data.Dict
import CommandCompletion.Proofs.Line.Course
import CommandCompletion.Sample

namespace CommandCompletion

variable {g : Grammar}

theorem Node.Spelled.bound_isSome_iff {node : Node} {name : Text} {phrase : Phrase}
    {bound : Option Text} (h : node.Spelled name phrase bound) :
    bound.isSome ↔ node.kind = .argument := by
  cases h with
  | literal kind blank => simp [kind]
  | argument kind count full => simp [kind]

namespace Grammar

-- The turn that stands behind some others of a course.
theorem Course.split {start tip : g.Spot} {line left : Text} {before after : List (Step g)}
    {step : Step g} (course : g.Course start line (before ++ step :: after) tip left) :
    ∃ spot here rest, g.Turn spot here step rest ∧ g.Course step.spot rest after tip left := by
  obtain ⟨spot, here, -, behind⟩ := course.cut
  cases behind with
  | cons turn others => exact ⟨spot, here, _, turn, others⟩

theorem Course.exists_turn {start tip : g.Spot} {line left : Text} {steps : List (Step g)}
    {step : Step g} (course : g.Course start line steps tip left) (h : step ∈ steps) :
    ∃ spot here rest, g.Turn spot here step rest := by
  obtain ⟨before, after, rfl⟩ := List.append_of_mem h
  obtain ⟨spot, here, rest, turn, -⟩ := course.split
  exact ⟨spot, here, rest, turn⟩

theorem Course.flush {start tip : g.Spot} {line left : Text} {steps : List (Step g)}
    (course : g.Course start line steps tip left) (hne : steps ≠ []) : Text.Flush left := by
  induction course with
  | nil => exact absurd rfl hne
  | cons turn others ih =>
    obtain ⟨phrase, -, -, flush, -⟩ := turn.spelled
    cases others with
    | nil => exact flush
    | cons => exact ih (by simp)

theorem Course.binds_iff {start tip : g.Spot} {line left : Text} {steps : List (Step g)}
    {step : Step g} (course : g.Course start line steps tip left) (h : step ∈ steps) :
    step.bound.isSome ↔ step.spot.node.kind = .argument := by
  obtain ⟨spot, here, rest, turn⟩ := course.exists_turn h
  obtain ⟨phrase, spelled, -⟩ := turn.spelled
  exact spelled.bound_isSome_iff

theorem Course.map_binding {start tip : g.Spot} {line left : Text} {steps : List (Step g)}
    (course : g.Course start line steps tip left) :
    (steps.filterMap Step.binding?).map Prod.fst =
      (steps.filter (·.spot.node.kind = .argument)).map (·.name) := by
  have hb := fun step (h : step ∈ steps) => course.binds_iff h
  clear course
  induction steps with
  | nil => rfl
  | cons step steps ih =>
    have hrest := ih fun other ho => hb other (List.mem_cons_of_mem _ ho)
    have hstep := hb step List.mem_cons_self
    cases hbound : step.bound with
    | none =>
      rw [hbound] at hstep
      have hk : step.spot.node.kind ≠ .argument := by
        intro hk
        simpa using hstep.mpr hk
      simp [Step.binding?, hbound, hk, ← hrest]
    | some text =>
      rw [hbound] at hstep
      have hk : step.spot.node.kind = .argument := hstep.mp rfl
      simp [Step.binding?, hbound, hk, ← hrest]

-- How a parsed line is made up: of what the steps take, one behind the other, and the remainder.
structure Tiling (g : Grammar) (start : g.Spot) (line : Text) (parse : Parse g)
    (steps : List (Step g)) : Prop where
  course : g.Course start line steps parse.tip parse.remainder
  path : parse.path = steps.map (·.name)
  whole : line = steps.flatMap (·.taken) ++ parse.remainder
  -- Blanks are missing at most behind the last child, at the end of the line.
  phrases : ∀ before step after, steps = before ++ step :: after →
    ∃ phrase : Phrase, step.spot.node.Spelled step.name phrase step.bound ∧
      step.taken = phrase.text ∧ (¬phrase.Closed → after = [] ∧ parse.remainder = [])
  flush : steps ≠ [] → Text.Flush parse.remainder
  -- Names are bound in the order in which they first occur, to what they are bound to last.
  keys : parse.bindings.keys =
    ((steps.filter (·.spot.node.kind = .argument)).map (·.name)).eraseDups
  values : ∀ name, parse.bindings.get? name =
    (steps.filterMap fun step => if step.name = name then step.bound else none).getLast?

-- Parsing loses no text, and it neither repeats nor moves any.
theorem exists_tiling (g : Grammar) (start : g.Spot) (line : Text) (parse : Parse g)
    (h : g.parseFrom start line = .ok parse) : ∃ steps, g.Tiling start line parse steps := by
  obtain ⟨steps, course, -, hbindings, hpath⟩ := parseFrom_eq_ok_iff.mp h
  refine ⟨steps, course, hpath, course.whole, ?_, course.flush, ?_, fun name => ?_⟩
  · rintro before step after rfl
    obtain ⟨spot, here, rest, turn, others⟩ := course.split
    obtain ⟨phrase, spelled, htaken, -, hend⟩ := turn.spelled
    refine ⟨phrase, spelled, htaken, fun hopen => ?_⟩
    rw [hend hopen] at others
    exact others.of_nil
  · rw [hbindings, Dict.keys_ofList, course.map_binding]
  · rw [hbindings, Dict.get?_ofList, List.filterMap_filterMap]
    congr 2
    funext step
    cases hb : step.bound <;> simp [Step.binding?, hb]

theorem isSome_lookup_targets :
    (Sample.grammar.root.lookup ["execute", "as", "targets"]).isSome := by
  decide +kernel

-- A name that is bound again on the way through a redirect.
theorem exists_tiling_sample :
    let spot := Sample.grammar.spotAt ["execute", "as", "targets"] isSome_lookup_targets
    let parse : Parse Sample.grammar :=
      ⟨spot, "ru", [("targets", "@p")], ["execute", "as", "targets", "as", "targets"]⟩
    Sample.grammar.parseFrom Sample.grammar.top ("execute as @e  as @p ru" : Text) = .ok parse ∧
      ∃ steps, Sample.grammar.Tiling Sample.grammar.top
        ("execute as @e  as @p ru" : Text) parse steps := by
  intro spot parse
  have h : Sample.grammar.parseFrom Sample.grammar.top ("execute as @e  as @p ru" : Text) =
      .ok parse := by
    decide +kernel
  exact ⟨h, exists_tiling _ _ _ parse h⟩

end Grammar

end CommandCompletion
