import CommandCompletion.Line.Suggestion
import CommandCompletion.Proofs.Grammar.Chain
import CommandCompletion.Proofs.Line.Course

namespace CommandCompletion

theorem RedirectFault.startsWith_message_cycle (hops : List Path) :
    ("Redirect cycle" : Text) <+: (cycle hops).message :=
  ⟨": " ++ Text.join " -> " (hops.map hopText), by
    rw [message, ← List.append_assoc]
    rfl⟩

theorem CommandSet.parse_of_flush {s : CommandSet} {line : Text} (flush : Text.Flush line) :
    s.parse line = s.grammar.parse line := by
  rw [parse, Text.trimStart_of_flush flush]

theorem CommandSet.isComplete_of_parse {s : CommandSet} {line : Text} {parse : Parse s.grammar}
    (parsed : s.parse line = .ok parse) :
    s.isComplete line = .ok (parse.remainder.isEmpty && parse.tip.node.executable) := by
  rw [isComplete, parsed]
  rfl

namespace Grammar

variable {g : Grammar}

-- Each turn costs at least one character of the line.
theorem Course.length_le {start tip : g.Spot} {line rest : Text} {steps : List (Step g)}
    (course : g.Course start line steps tip rest) : steps.length + rest.length ≤ line.length := by
  induction course with
  | nil => simp
  | cons turn _ ih =>
    have hlt := turn.length_lt
    simp only [List.length_cons]
    omega

-- Where a walk stops there are children to make suggestions from.
theorem Stops.exists_suggest {tip : g.Spot} {rest : Text} (stops : g.Stops tip rest)
    (registries : Registries) (typed : Text) :
    ∃ candidates, g.suggest registries tip typed = .ok candidates := by
  obtain ⟨children, hc, -⟩ := stops
  exact ⟨_, by rw [suggest, hc]; rfl⟩

theorem exists_parseFrom_eq_error_iff {start : g.Spot} {line : Text} :
    (∃ fault, g.parseFrom start line = .error fault) ↔
      ∃ steps tip rest, g.Course start line steps tip rest ∧ g.root.Endless tip.node := by
  constructor
  · rintro ⟨fault, h⟩
    obtain ⟨steps, tip, rest, course, hc⟩ := parseFrom_eq_error_iff.mp h
    exact ⟨steps, tip, rest, course, (endless_of_childrenOf_eq_error hc).1⟩
  · rintro ⟨steps, tip, rest, course, endless⟩
    obtain ⟨hops, hc⟩ := childrenOf_of_endless endless
    exact ⟨.cycle hops, parseFrom_of_error course hc⟩

theorem Acyclic.exists_parseFrom (acyclic : g.Acyclic) (start : g.Spot) (line : Text) :
    ∃ parse, g.parseFrom start line = .ok parse := by
  cases h : g.parseFrom start line with
  | ok parse => exact ⟨parse, rfl⟩
  | error fault =>
    obtain ⟨steps, tip, rest, -, hc⟩ := parseFrom_eq_error_iff.mp h
    exact absurd (endless_of_childrenOf_eq_error hc).1 (acyclic tip)

-- A line always comes to an end, in a result whose suggestions can be made or in the report of a
-- circle. The report is made if and only if the walk gets to a place whose redirects never end.
theorem parseFrom_ends (g : Grammar) (start : g.Spot) (line : Text) :
    (∀ steps tip rest, g.Course start line steps tip rest →
      steps.length + rest.length ≤ line.length ∧
        ∀ step left, g.Turn tip rest step left → left.length < rest.length) ∧
    ((∃ parse, g.parseFrom start line = .ok parse ∧
        parse.path.length + parse.remainder.length ≤ line.length ∧
          ∀ registries, ∃ candidates,
            g.suggest registries parse.tip parse.remainder = .ok candidates) ∨
      ∃ hops, g.parseFrom start line = .error (.cycle hops) ∧
        ("Redirect cycle" : Text) <+: (RedirectFault.cycle hops).message) ∧
    ((∃ fault, g.parseFrom start line = .error fault) ↔
      ∃ steps tip rest, g.Course start line steps tip rest ∧ g.root.Endless tip.node) := by
  refine ⟨fun steps tip rest course => ⟨course.length_le, fun step left => Turn.length_lt⟩, ?_,
    exists_parseFrom_eq_error_iff⟩
  cases h : g.parseFrom start line with
  | ok parse =>
    obtain ⟨steps, course, stops, -, hp⟩ := parseFrom_eq_ok_iff.mp h
    refine .inl ⟨parse, rfl, ?_, fun registries => stops.exists_suggest registries _⟩
    rw [hp, List.length_map]
    exact course.length_le
  | error fault =>
    obtain ⟨steps, tip, rest, course, hc⟩ := parseFrom_eq_error_iff.mp h
    obtain ⟨-, hops, rfl⟩ := endless_of_childrenOf_eq_error hc
    exact .inr ⟨hops, rfl, RedirectFault.startsWith_message_cycle hops⟩

end Grammar

-- A line is parsed and there are suggestions for what may follow, or redirects run in a circle.
theorem CommandSet.complete_cases (s : CommandSet) (line : Text) :
    (∃ hops, s.parse line = .error (.cycle hops)) ∨
      ∃ parse candidates, s.parse line = .ok parse ∧ s.suggest parse = .ok candidates := by
  cases parsed : s.parse line with
  | error fault =>
    obtain ⟨steps, tip, rest, -, hc⟩ := Grammar.parseFrom_eq_error_iff.mp parsed
    obtain ⟨-, hops, rfl⟩ := Grammar.endless_of_childrenOf_eq_error hc
    exact .inl ⟨hops, rfl⟩
  | ok parse =>
    obtain ⟨steps, -, stops, -⟩ := Grammar.parseFrom_eq_ok_iff.mp parsed
    obtain ⟨candidates, suggested⟩ := stops.exists_suggest s.registries parse.remainder
    exact .inr ⟨parse, candidates, rfl, suggested⟩

end CommandCompletion
