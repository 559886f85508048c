import CommandCompletion.Line.Walk

namespace CommandCompletion

-- A space accepts any candidate.
def commitCharacters : List Text := [" "]

-- What a child offers: a literal its name, an argument what could stand for it.
def Node.offers (node : Node) (name : Text) (r : Registries) : List Candidate :=
  match node.kind with
  | .root => []
  | .literal => [⟨name, .keyword, none, []⟩]
  | .argument => node.argument.candidates r

namespace Grammar

-- The candidates for the children of a node that go on from the typed text.
def suggest (g : Grammar) (r : Registries) (tip : g.Spot) (typed : Text) :
    Except RedirectFault (List Candidate) :=
  (g.childrenOf tip).map fun children =>
    ((children.flatMap fun (name, child) => child.node.offers name r).filter
      (·.extends? typed)).map (·.addCommitCharacters commitCharacters)

end Grammar

-- A grammar with the registries that its arguments draw on.
structure CommandSet where
  grammar : Grammar
  registries : Registries

namespace CommandSet

-- Parses a line without regard to its indentation.
def parse (s : CommandSet) (line : Text) : Except RedirectFault (Parse s.grammar) :=
  s.grammar.parse (Text.trimStart line)

def suggest (s : CommandSet) (parse : Parse s.grammar) : Except RedirectFault (List Candidate) :=
  s.grammar.suggest s.registries parse.tip parse.remainder

def complete (s : CommandSet) (line : Text) : Except RedirectFault (List Candidate) := do
  s.suggest (← s.parse line)

-- A line is complete when all of it is parsed and its end can be executed.
def isComplete (s : CommandSet) (line : Text) : Except RedirectFault Bool := do
  let parse ← s.parse line
  return parse.remainder.isEmpty && parse.tip.node.executable

end CommandSet

end CommandCompletion
