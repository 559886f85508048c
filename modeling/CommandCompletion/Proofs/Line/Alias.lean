import CommandCompletion.Proofs.Line.Choice
import CommandCompletion.Proofs.Line.Ending
import CommandCompletion.Sample

namespace CommandCompletion

open Text (IsWord IsGap Detached isBlank)

variable {g : Grammar}

namespace Walk

-- The place where a walk began is its tip only if it took nothing.
theorem tip_eq_of_steps {walk : Walk g} (h : walk.steps ≠ []) (start other : g.Spot) :
    walk.tip start = walk.tip other := by
  rw [tip, tip, List.getLast?_eq_some_getLast h]
  rfl

theorem tip_cons (step : Step g) (walk : Walk g) (start : g.Spot) :
    (walk.cons step).tip start = walk.tip step.spot := by
  unfold cons tip
  cases walk.steps with
  | nil => rfl
  | cons next steps => simp [List.getLast?_cons]

end Walk

-- What was parsed behind a literal of some name.
def Parse.behind (name : Text) (parse : Parse g) : Parse g :=
  { parse with path := name :: parse.path }

namespace Grammar

variable {spot one other : g.Spot} {children : List (Text × g.Spot)} {name behind : Text}

-- Places that redirect to the same one have the same children.
theorem childrenOf_eq_of_resolve (h : one.resolve = other.resolve) :
    g.childrenOf one = g.childrenOf other := by
  rw [childrenOf, childrenOf, h]

-- From places with the same children a line goes the same way.
theorem walk_eq_of_childrenOf (h : g.childrenOf one = g.childrenOf other) (line : Text) :
    g.walk one line = g.walk other line := by
  rw [walk_unfold one, walk_unfold other, h]

theorem suggest_eq_of_childrenOf (h : g.childrenOf one = g.childrenOf other) (r : Registries)
    (typed : Text) : g.suggest r one typed = g.suggest r other typed := by
  rw [suggest, suggest, h]

-- Of literals the one is taken whose name is the first word of the line.
theorem Turn.of_command (hc : g.childrenOf spot = .ok children)
    (literals : ∀ pair ∈ children, pair.2.node.kind = .literal ∧ IsWord pair.1)
    (hmem : (name, one) ∈ children) (hb : Detached behind) :
    ∃ taken, g.Turn spot (name ++ behind) ⟨name, one, none, taken⟩ (Text.trimStart behind) := by
  obtain ⟨earlier, later, rfl⟩ := List.append_of_mem hmem
  obtain ⟨kind, hword⟩ := literals _ hmem
  obtain ⟨gap, -, he⟩ := Text.exists_gap behind
  have names := nodup_names hc
  rw [List.map_append, List.map_cons, List.nodup_append] at names
  refine ⟨name ++ gap, ⟨earlier, later, hc, ?_⟩, ?_, ?_⟩
  · intro pair hp
    obtain ⟨okind, howord⟩ := literals pair (List.mem_append_left _ hp)
    rw [← Option.not_isSome_iff_eq_none, Node.bite?_isSome_iff_of_literal okind howord hword hb]
    exact names.2.2 pair.1 (List.mem_map_of_mem hp) name List.mem_cons_self
  · rw [Node.bite?, kind, takeLiteral_of_detached hb]
    rfl
  · rw [List.append_assoc, ← he]

theorem parseFrom_of_literal {line rest taken : Text}
    (turn : g.Turn spot line ⟨name, one, none, taken⟩ rest) :
    g.parseFrom spot line = (g.parseFrom one rest).map (Parse.behind name) := by
  rw [parseFrom, parseFrom, walk_of_turn turn, Walk.result, Walk.result, Walk.tip_cons]
  cases hw : (g.walk one rest).ending with
  | error fault => simp only [Walk.cons, hw, Except.map]
  | ok remainder => simp only [Walk.cons, hw, Except.map, Walk.bindings, List.foldl_cons,
      Walk.bind, Parse.behind, List.map_cons]

theorem parse_of_command (hc : g.childrenOf g.top = .ok children)
    (literals : ∀ pair ∈ children, pair.2.node.kind = .literal ∧ IsWord pair.1)
    (hmem : (name, one) ∈ children) (hb : Detached behind) :
    g.parse (name ++ behind) =
      (g.parseFrom one (Text.trimStart behind)).map (Parse.behind name) := by
  obtain ⟨taken, turn⟩ := Turn.of_command hc literals hmem hb
  exact parseFrom_of_literal turn

-- Two places with the same children parse a line alike. Where nothing of it is taken each of them
-- is its own tip.
theorem parseFrom_eq_of_childrenOf (h : g.childrenOf one = g.childrenOf other) (line : Text) :
    (∃ fault, g.parseFrom one line = .error fault ∧ g.parseFrom other line = .error fault) ∨
      ∃ parse tip, g.parseFrom one line = .ok parse ∧
        g.parseFrom other line = .ok { parse with tip } ∧
        g.childrenOf parse.tip = g.childrenOf tip ∧ (parse.path ≠ [] → parse.tip = tip) := by
  rw [parseFrom, parseFrom, ← walk_eq_of_childrenOf h]
  generalize g.walk one line = walk
  unfold Walk.result
  cases walk.ending with
  | error fault => exact .inl ⟨fault, rfl, rfl⟩
  | ok remainder =>
    refine .inr ⟨_, walk.tip other, rfl, rfl, ?_, fun hpath => ?_⟩
    · by_cases hsteps : walk.steps = []
      · simpa [Walk.tip, hsteps] using h
      · simp only [Walk.tip_eq_of_steps hsteps one other]
    · exact Walk.tip_eq_of_steps (by simpa using hpath) one other

-- A command and one that redirects to it, by any number of redirects, are the same command.
theorem parse_of_alias (g : Grammar) {children : List (Text × g.Spot)}
    (hc : g.childrenOf g.top = .ok children)
    (literals : ∀ pair ∈ children, pair.2.node.kind = .literal ∧ ∀ c ∈ pair.1, isBlank c = false)
    {first second : Text} {one other target : g.Spot} (hone : (first, one) ∈ children)
    (hother : (second, other) ∈ children) (resolved : one.resolve = .ok target)
    (alike : other.resolve = .ok target) {gap : Text} (blank : IsGap gap) (hne : gap ≠ [])
    (rest : Text) :
    (∃ fault, g.parse (first ++ (gap ++ rest)) = .error fault ∧
        g.parse (second ++ (gap ++ rest)) = .error fault) ∨
      ∃ parse twin, g.parse (first ++ (gap ++ rest)) = .ok parse ∧
        g.parse (second ++ (gap ++ rest)) = .ok twin ∧
        parse.bindings = twin.bindings ∧ parse.remainder = twin.remainder ∧
        (∃ path, parse.path = first :: path ∧ twin.path = second :: path) ∧
        (∀ registries, ∃ candidates,
          g.suggest registries parse.tip parse.remainder = .ok candidates ∧
            g.suggest registries twin.tip twin.remainder = .ok candidates) ∧
        (1 < parse.path.length → parse.tip = twin.tip ∧
          ∀ registries, CommandSet.isComplete ⟨g, registries⟩ (first ++ (gap ++ rest)) =
            CommandSet.isComplete ⟨g, registries⟩ (second ++ (gap ++ rest))) := by
  have words : ∀ pair ∈ children, pair.2.node.kind = .literal ∧ IsWord pair.1 := by
    intro pair hp
    exact ⟨(literals pair hp).1, name_ne_nil hc hp, (literals pair hp).2⟩
  have detached : Detached (gap ++ rest) := blank.detached_append fun hnil => absurd hnil hne
  have parsed := parse_of_command hc words hone detached
  have parsedTwin := parse_of_command hc words hother detached
  have same : g.childrenOf one = g.childrenOf other :=
    childrenOf_eq_of_resolve (resolved.trans alike.symm)
  rcases parseFrom_eq_of_childrenOf same (Text.trimStart (gap ++ rest)) with
    ⟨fault, herror, htwin⟩ | ⟨found, tip, hfound, htwin, htips, hpath⟩
  · rw [herror] at parsed
    rw [htwin] at parsedTwin
    exact .inl ⟨fault, parsed, parsedTwin⟩
  · rw [hfound] at parsed
    rw [htwin] at parsedTwin
    obtain ⟨steps, -, stops, -⟩ := parseFrom_eq_ok_iff.mp hfound
    refine .inr ⟨_, _, parsed, parsedTwin, rfl, rfl, ⟨found.path, rfl, rfl⟩, ?_, ?_⟩
    · intro registries
      obtain ⟨candidates, hs⟩ := stops.exists_suggest registries found.remainder
      exact ⟨candidates, hs, (suggest_eq_of_childrenOf htips _ _).symm.trans hs⟩
    · intro hlong
      have htip : found.tip = tip := by
        apply hpath
        rintro hnil
        simp [Parse.behind, hnil] at hlong
      refine ⟨htip, fun registries => ?_⟩
      have flush := (words _ hone).2.flush_append (gap ++ rest)
      have flushTwin := (words _ hother).2.flush_append (gap ++ rest)
      rw [CommandSet.isComplete_of_parse ((CommandSet.parse_of_flush flush).trans parsed),
        CommandSet.isComplete_of_parse ((CommandSet.parse_of_flush flushTwin).trans parsedTwin),
        ← htip]
      rfl

-- The sample's only alias, with an argument behind it whose node is the tip of both lines.
theorem parse_of_alias_sample :
    let g := Sample.grammar
    let teleport := g.spotAt ["teleport"] (by decide +kernel)
    let tp := g.spotAt ["tp"] (by decide +kernel)
    g.childrenOf g.top = .ok (g.ownChildren g.top) ∧
      tp.resolve = .ok teleport ∧ teleport.resolve = .ok teleport ∧
      ∃ parse twin, g.parse ("tp" ++ ("  " ++ "~ ~1 ~ 90" : Text) : Text) = .ok parse ∧
        g.parse ("teleport" ++ ("  " ++ "~ ~1 ~ 90" : Text) : Text) = .ok twin ∧
        parse.path = (["tp", "location"] : Path) ∧
        twin.path = (["teleport", "location"] : Path) ∧
        parse.bindings = twin.bindings ∧ parse.remainder = twin.remainder ∧
        parse.tip = twin.tip := by
  intro g teleport tp
  have hc : g.childrenOf g.top = .ok (g.ownChildren g.top) := by decide +kernel
  have literals : ∀ pair ∈ g.ownChildren g.top,
      pair.2.node.kind = .literal ∧ ∀ c ∈ pair.1, isBlank c = false := by
    decide +kernel
  have short : (("tp" : Text), tp) ∈ g.ownChildren g.top := by decide +kernel
  have long : (("teleport" : Text), teleport) ∈ g.ownChildren g.top := by decide +kernel
  have resolved : tp.resolve = .ok teleport := by decide +kernel
  have alike : teleport.resolve = .ok teleport := by decide +kernel
  have blank : IsGap "  " := by decide
  have located : g.parse ("tp" ++ ("  " ++ "~ ~1 ~ 90" : Text) : Text) =
      .ok ⟨g.spotAt ["teleport", "location"] (by decide +kernel), "90",
        [("location", "~ ~1 ~")], ["tp", "location"]⟩ := by
    decide +kernel
  rcases parse_of_alias g hc literals short long resolved alike blank (by decide)
      "~ ~1 ~ 90" with
    ⟨fault, herror, -⟩ | ⟨parse, twin, hparse, htwin, hb, hr, ⟨path, hp, hpt⟩, -, htip⟩
  · cases located.symm.trans herror
  · cases located.symm.trans hparse
    cases hp
    exact ⟨hc, resolved, alike, _, twin, located, htwin, rfl, hpt, hb, hr, (htip (by decide)).1⟩

end Grammar

end CommandCompletion
