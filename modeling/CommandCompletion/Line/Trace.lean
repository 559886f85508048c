import CommandCompletion.Line.Suggestion

namespace CommandCompletion

-- The records of the redirects that were followed.
def redirectRecords (hops : List Path) : List Record :=
  hops.map fun hop => ⟨.debug, .grammar, "redirect -> " ++ hopText hop⟩

def Place.records {root : Node} (place : Place root) : List Record :=
  redirectRecords place.chain.taken

def Step.record {g : Grammar} (step : Step g) : Record :=
  ⟨.debug, .completion,
    "consumed " ++ quote step.taken ++ " as " ++ step.spot.node.kind.name ++ " " ++
      quote step.name⟩

-- The records of a walk: at each node its redirects, then the child that was taken.
def Walk.records {g : Grammar} (start : g.Spot) : List (Step g) → List Record
  | [] => start.records
  | step :: rest => start.records ++ step.record :: records step.spot rest

namespace Grammar

def buildRecord (g : Grammar) : Record :=
  ⟨.debug, .grammar, "Built " ++ g.summary⟩

def parseRecords (g : Grammar) (start : g.Spot) (line : Text) : List Record :=
  Walk.records start (g.walk start line).steps

end Grammar

namespace CommandSet

def parseRecords (s : CommandSet) (line : Text) : List Record :=
  s.grammar.parseRecords s.grammar.top (Text.trimStart line)

-- The records of completing a line. Without candidates to count there is no closing record.
def completeRecords (s : CommandSet) (line : Text) : List Record :=
  s.parseRecords line ++
    match s.parse line with
    | .error _ => []
    | .ok parse =>
      parse.tip.records ++
        match s.suggest parse with
        | .error _ => []
        | .ok candidates =>
          [⟨.debug, .completion,
            toString candidates.length ++ " candidates for " ++ quote line⟩]

end CommandSet

end CommandCompletion
