import CommandCompletion.Proofs.Data.Result
import CommandCompletion.Proofs.Grammar.Children
import CommandCompletion.Proofs.Line.Phrase

namespace CommandCompletion

variable {g : Grammar}

-- The name and the text that a step binds, if it goes to an argument.
def Step.binding? (step : Step g) : Option (Text × Text) :=
  step.bound.map (step.name, ·)

theorem Walk.foldl_bind (steps : List (Step g)) (bindings : Dict Text) :
    steps.foldl Walk.bind bindings = bindings.insertAll (steps.filterMap Step.binding?) := by
  induction steps generalizing bindings with
  | nil => rfl
  | cons step steps ih =>
    rw [List.foldl_cons, ih]
    cases hb : step.bound <;> simp [Walk.bind, Step.binding?, hb, Dict.insertAll]

namespace Grammar

-- One turn of a walk: of the children that count for a spot the first that takes anything from the
-- line, and the line behind what it takes.
structure Turn (g : Grammar) (spot : g.Spot) (line : Text) (step : Step g) (rest : Text) : Prop where
  first : ∃ earlier later,
    g.childrenOf spot = .ok (earlier ++ (step.name, step.spot) :: later) ∧
      ∀ pair ∈ earlier, pair.2.node.bite? pair.1 line = none
  bite : step.spot.node.bite? step.name line = some ⟨step.bound, rest⟩
  whole : line = step.taken ++ rest

-- Some turns in a row, from a spot and a line to the spot and the line they lead to.
inductive Course (g : Grammar) : g.Spot → Text → List (Step g) → g.Spot → Text → Prop
  | nil (spot : g.Spot) (line : Text) : Course g spot line [] spot line
  | cons {spot tip : g.Spot} {line rest left : Text} {step : Step g} {steps : List (Step g)}
      (turn : g.Turn spot line step rest) (others : Course g step.spot rest steps tip left) :
      Course g spot line (step :: steps) tip left

-- Here a walk comes to its end: the spot has children that count, but none of them takes anything.
def Stops (g : Grammar) (spot : g.Spot) (line : Text) : Prop :=
  ∃ children, g.childrenOf spot = .ok children ∧
    ∀ pair ∈ children, pair.2.node.bite? pair.1 line = none

theorem Turn.mem_childrenOf {spot : g.Spot} {line rest : Text} {step : Step g}
    (turn : g.Turn spot line step rest) :
    ∃ children, g.childrenOf spot = .ok children ∧ (step.name, step.spot) ∈ children := by
  obtain ⟨earlier, later, hc, -⟩ := turn.first
  exact ⟨_, hc, by simp⟩

-- What a turn takes is a phrase for the child it goes to.
theorem Turn.spelled {spot : g.Spot} {line rest : Text} {step : Step g}
    (turn : g.Turn spot line step rest) :
    ∃ phrase : Phrase, step.spot.node.Spelled step.name phrase step.bound ∧
      step.taken = phrase.text ∧ Text.Flush rest ∧ (¬phrase.Closed → rest = []) := by
  obtain ⟨phrase, spelled, he, flush, hend⟩ := Node.spelled_of_bite? turn.bite
  exact ⟨phrase, spelled, List.append_cancel_right (turn.whole.symm.trans he), flush, hend⟩

theorem Turn.length_lt {spot : g.Spot} {line rest : Text} {step : Step g}
    (turn : g.Turn spot line step rest) : rest.length < line.length := by
  obtain ⟨children, hc, hmem⟩ := turn.mem_childrenOf
  exact length_lt_of_bite? (name_ne_nil hc hmem) turn.bite

theorem Course.append {spot middle tip : g.Spot} {line rest left : Text}
    {steps others : List (Step g)} (before : g.Course spot line steps middle rest)
    (after : g.Course middle rest others tip left) :
    g.Course spot line (steps ++ others) tip left := by
  induction before with
  | nil => exact after
  | cons turn _ ih => exact .cons turn (ih after)

theorem Course.single {spot : g.Spot} {line rest : Text} {step : Step g}
    (turn : g.Turn spot line step rest) : g.Course spot line [step] step.spot rest :=
  .cons turn (.nil _ _)

-- A course leads through a spot between any two of its turns.
theorem Course.cut {start tip : g.Spot} {line left : Text} {before after : List (Step g)}
    (course : g.Course start line (before ++ after) tip left) :
    ∃ spot here, g.Course start line before spot here ∧ g.Course spot here after tip left := by
  induction before generalizing start line with
  | nil => exact ⟨start, line, .nil _ _, course⟩
  | cons first before ih =>
    cases course with
    | cons turn others =>
      obtain ⟨spot, here, front, back⟩ := ih others
      exact ⟨spot, here, .cons turn front, back⟩

-- The line is what the turns take, one behind the other, and what they leave.
theorem Course.whole {spot tip : g.Spot} {line left : Text} {steps : List (Step g)}
    (course : g.Course spot line steps tip left) : line = steps.flatMap (·.taken) ++ left := by
  induction course with
  | nil => rfl
  | cons turn _ ih => rw [List.flatMap_cons, List.append_assoc, ← ih, ← turn.whole]

theorem Course.tip_eq {spot tip : g.Spot} {line left : Text} {steps : List (Step g)}
    (course : g.Course spot line steps tip left) :
    (steps.getLast?.map (·.spot)).getD spot = tip := by
  induction course with
  | nil => rfl
  | @cons spot tip line rest left step steps turn others ih =>
    rw [← ih]
    cases steps with
    | nil => rfl
    | cons next steps => simp [List.getLast?_cons]

-- The path of a course leads to where the course leads.
theorem Course.findFrom {spot tip : g.Spot} {line left : Text} {steps : List (Step g)}
    (course : g.Course spot line steps tip left) :
    g.findFrom spot (steps.map (·.name)) = .ok (some tip) := by
  induction course with
  | nil => rfl
  | cons turn _ ih =>
    obtain ⟨children, hc, hmem⟩ := turn.mem_childrenOf
    rw [List.map_cons, Grammar.findFrom, hc]
    simp only [Dict.get?_of_mem (nodup_names hc) hmem, ih]

-- Nothing can be taken from an empty line.
theorem stops_nil {spot : g.Spot} {children : List (Text × g.Spot)}
    (hc : g.childrenOf spot = .ok children) : g.Stops spot [] := by
  refine ⟨children, hc, fun pair hp => ?_⟩
  rw [← Option.not_isSome_iff_eq_none]
  intro hbite
  obtain ⟨bite, hb⟩ := Option.isSome_iff_exists.mp hbite
  exact absurd (length_lt_of_bite? (name_ne_nil hc hp) hb) (Nat.not_lt_zero _)

theorem Course.of_nil {start tip : g.Spot} {left : Text} {steps : List (Step g)}
    (course : g.Course start [] steps tip left) : steps = [] ∧ left = [] := by
  cases course with
  | nil => exact ⟨rfl, rfl⟩
  | cons turn others => exact absurd turn.length_lt (Nat.not_lt_zero _)

-- One round of a walk, without what its termination rests on.
theorem walk_unfold (spot : g.Spot) (line : Text) :
    g.walk spot line =
      match g.childrenOf spot with
      | .error fault => ⟨[], .error fault⟩
      | .ok children =>
        match g.firstBite children line with
        | none => ⟨[], .ok line⟩
        | some (name, child, bite) =>
          (g.walk child bite.rest).cons
            ⟨name, child, bite.bound, line.take (line.length - bite.rest.length)⟩ := by
  rw [walk]
  split
  · next hc => rw [hc]
  · next children hc =>
    simp only [hc]
    split
    · next hb => rw [hb]
    · next hb => rw [hb]

theorem walk_of_error {spot : g.Spot} {fault : RedirectFault}
    (hc : g.childrenOf spot = .error fault) (line : Text) :
    g.walk spot line = ⟨[], .error fault⟩ := by
  rw [walk_unfold, hc]

theorem walk_of_stops {spot : g.Spot} {line : Text} (h : g.Stops spot line) :
    g.walk spot line = ⟨[], .ok line⟩ := by
  obtain ⟨children, hc, hnone⟩ := h
  have hb : g.firstBite children line = none := by
    apply List.findSome?_eq_none_iff.mpr
    intro pair hp
    simp [hnone pair hp]
  simp only [walk_unfold spot line, hc, hb]

theorem firstBite_eq_some_iff {children : List (Text × g.Spot)} {line name : Text}
    {child : g.Spot} {bite : Bite} :
    g.firstBite children line = some (name, child, bite) ↔
      ∃ earlier later, children = earlier ++ (name, child) :: later ∧
        (∀ pair ∈ earlier, pair.2.node.bite? pair.1 line = none) ∧
        child.node.bite? name line = some bite := by
  simp only [firstBite, List.findSome?_eq_some_iff, Option.map_eq_some_iff, Prod.mk.injEq,
    Option.map_eq_none_iff]
  constructor
  · rintro ⟨earlier, ⟨key, spot⟩, later, hc, ⟨_, hb, rfl, rfl, rfl⟩, hnone⟩
    exact ⟨earlier, later, hc, hnone, hb⟩
  · rintro ⟨earlier, later, hc, hnone, hb⟩
    exact ⟨earlier, (name, child), later, hc, ⟨bite, hb, rfl, rfl, rfl⟩, hnone⟩

theorem walk_of_turn {spot : g.Spot} {line rest : Text} {step : Step g}
    (turn : g.Turn spot line step rest) :
    g.walk spot line = (g.walk step.spot rest).cons step := by
  obtain ⟨earlier, later, hc, hnone⟩ := turn.first
  have hb : g.firstBite (earlier ++ (step.name, step.spot) :: later) line =
      some (step.name, step.spot, ⟨step.bound, rest⟩) :=
    firstBite_eq_some_iff.mpr ⟨earlier, later, rfl, hnone, turn.bite⟩
  have htaken : line.take (line.length - rest.length) = step.taken := by
    rw [turn.whole]
    exact List.take_left' (by simp)
  simp only [walk_unfold spot line, hc, hb, htaken]

-- What can happen to a walk next.
theorem walk_cases (spot : g.Spot) (line : Text) :
    (∃ fault, g.childrenOf spot = .error fault) ∨ g.Stops spot line ∨
      ∃ step rest, g.Turn spot line step rest := by
  cases hc : g.childrenOf spot with
  | error fault => exact .inl ⟨fault, rfl⟩
  | ok children =>
    cases hb : g.firstBite children line with
    | none =>
      refine .inr (.inl ⟨children, hc, fun pair hp => ?_⟩)
      simpa using List.findSome?_eq_none_iff.mp hb pair hp
    | some found =>
      obtain ⟨name, child, bite⟩ := found
      obtain ⟨earlier, later, rfl, hnone, hbite⟩ := firstBite_eq_some_iff.mp hb
      obtain ⟨phrase, -, he, -, -⟩ := Node.spelled_of_bite? hbite
      exact .inr (.inr ⟨⟨name, child, bite.bound, phrase.text⟩, bite.rest,
        ⟨earlier, later, hc, hnone⟩, hbite, he⟩)

-- Since every turn shortens the line, turns can be taken until there are none.
theorem exists_course (spot : g.Spot) (line : Text) :
    ∃ steps tip rest, g.Course spot line steps tip rest ∧
      (g.Stops tip rest ∨ ∃ fault, g.childrenOf tip = .error fault) := by
  induction hn : line.length using Nat.strongRecOn generalizing spot line with
  | ind n ih =>
    rcases walk_cases spot line with fault | stops | ⟨step, rest, turn⟩
    · exact ⟨[], spot, line, .nil _ _, .inr fault⟩
    · exact ⟨[], spot, line, .nil _ _, .inl stops⟩
    · obtain ⟨steps, tip, left, course, ending⟩ :=
        ih rest.length (hn ▸ turn.length_lt) step.spot rest rfl
      exact ⟨step :: steps, tip, left, .cons turn course, ending⟩

-- A walk begins with any turns that can be taken.
theorem walk_of_course {spot tip : g.Spot} {line rest : Text} {steps : List (Step g)}
    (course : g.Course spot line steps tip rest) :
    g.walk spot line = ⟨steps ++ (g.walk tip rest).steps, (g.walk tip rest).ending⟩ := by
  induction course with
  | nil => rfl
  | cons turn _ ih => rw [walk_of_turn turn, ih]; rfl

-- What parses begins with any turns that can be taken.
theorem Course.path_eq {start tip : g.Spot} {line rest : Text} {steps : List (Step g)}
    (course : g.Course start line steps tip rest) {parse : Parse g}
    (parsed : g.parseFrom start line = .ok parse) :
    parse.path = steps.map (·.name) ++ (g.walk tip rest).steps.map (·.name) := by
  rw [parseFrom, walk_of_course course] at parsed
  obtain ⟨remainder, -, rfl⟩ := map_eq_ok_iff.mp parsed
  exact List.map_append

theorem parseFrom_of_stops {start tip : g.Spot} {line rest : Text} {steps : List (Step g)}
    (course : g.Course start line steps tip rest) (stops : g.Stops tip rest) :
    g.parseFrom start line =
      .ok ⟨tip, rest, Dict.ofList (steps.filterMap Step.binding?), steps.map (·.name)⟩ := by
  rw [parseFrom, walk_of_course course, walk_of_stops stops]
  simp only [List.append_nil, Walk.result, Walk.tip, course.tip_eq, Walk.bindings,
    Walk.foldl_bind, Dict.ofList, Except.map]

theorem parseFrom_of_error {start tip : g.Spot} {line rest : Text} {steps : List (Step g)}
    {fault : RedirectFault} (course : g.Course start line steps tip rest)
    (hc : g.childrenOf tip = .error fault) : g.parseFrom start line = .error fault := by
  rw [parseFrom, walk_of_course course, walk_of_error hc]
  rfl

theorem parseFrom_eq_ok_iff {start : g.Spot} {line : Text} {parse : Parse g} :
    g.parseFrom start line = .ok parse ↔
      ∃ steps, g.Course start line steps parse.tip parse.remainder ∧
        g.Stops parse.tip parse.remainder ∧
          parse.bindings = Dict.ofList (steps.filterMap Step.binding?) ∧
            parse.path = steps.map (·.name) := by
  constructor
  · intro h
    obtain ⟨steps, tip, rest, course, stops | ⟨fault, hc⟩⟩ := exists_course start line
    · rw [parseFrom_of_stops course stops] at h
      cases h
      exact ⟨steps, course, stops, rfl, rfl⟩
    · rw [parseFrom_of_error course hc] at h
      cases h
  · rintro ⟨steps, course, stops, hb, hp⟩
    rw [parseFrom_of_stops course stops, ← hb, ← hp]

theorem parseFrom_eq_error_iff {start : g.Spot} {line : Text} {fault : RedirectFault} :
    g.parseFrom start line = .error fault ↔
      ∃ steps tip rest, g.Course start line steps tip rest ∧
        g.childrenOf tip = .error fault := by
  constructor
  · intro h
    obtain ⟨steps, tip, rest, course, stops | ⟨other, hc⟩⟩ := exists_course start line
    · rw [parseFrom_of_stops course stops] at h
      cases h
    · rw [parseFrom_of_error course hc] at h
      cases h
      exact ⟨steps, tip, rest, course, hc⟩
  · rintro ⟨steps, tip, rest, course, hc⟩
    exact parseFrom_of_error course hc

end Grammar

end CommandCompletion
