import CommandCompletion.Grammar.Distinct
import CommandCompletion.Text.Blank

namespace CommandCompletion

-- What may be wrong with a tree whose nodes are each well shaped.
inductive Defect
  | blankName (parent : Path)
  | unknownTarget (path target : Path)
deriving DecidableEq, Repr

def isBlankName (name : Text) : Bool :=
  name.all Text.isBlank

namespace Node

-- A redirect names a node of the tree, following own children only.
def linkDefect? (root : Node) (path : Path) (node : Node) : Option Defect :=
  match node.redirect with
  | none => none
  | some target =>
    if (root.lookup target).isSome then none else some (.unknownTarget path target)

-- The defect of one node of the tree. Its name is looked at before its redirect.
def defect? (root : Node) (entry : Path × Node) : Option Defect :=
  match entry.1.getLast? with
  | none => root.linkDefect? entry.1 entry.2
  | some name =>
    if isBlankName name then some (.blankName entry.1.dropLast)
    else root.linkDefect? entry.1 entry.2

end Node

-- A command tree fit for use: it starts at a root, no name in it is blank, every redirect has a
-- target, and children of one node have different names.
structure Grammar where
  root : Node
  isRoot : root.kind = .root
  sound : ∀ entry ∈ root.walk [], root.defect? entry = none
  distinct : ∀ entry ∈ root.walk [], Dict.Distinct entry.2.children

-- Why data is no command tree.
inductive GrammarFault
  | malformed (misfits : List Misfit)
  | notRoot (kind : Kind)
  | defect (defect : Defect)
deriving DecidableEq, Repr

def spacedPath (path : Path) : Text :=
  Text.spaced path

-- A path in messages; the empty one is the root.
def pathText (path : Text) : Text :=
  if path = "" then "<root>" else path

def Defect.message : Defect → Text
  | blankName parent => "Empty node name under " ++ quote (pathText (spacedPath parent))
  | unknownTarget path target =>
    "Node " ++ quote (spacedPath path) ++ " redirects to unknown target " ++
      quote (Text.join "/" target)

def GrammarFault.message : GrammarFault → Text
  | malformed _ => "Invalid grammar"
  | notRoot kind => "Grammar must start with a root node, got " ++ quote kind.name
  | defect d => d.message

namespace Grammar

-- The tree below a root node, or its first defect in walking order.
def ofRoot (root : Node) (distinct : root.AllDistinct) : Except GrammarFault Grammar :=
  if isRoot : root.kind = .root then
    match sound : (root.walk []).findSome? root.defect? with
    | some d => .error (.defect d)
    | none => .ok ⟨root, isRoot, List.findSome?_eq_none_iff.mp sound, distinct []⟩
  else .error (.notRoot root.kind)

-- Reads a command tree from data.
def build (data : Value) : Except GrammarFault Grammar :=
  match h : Node.ofValue data with
  | .error misfits => .error (.malformed misfits)
  | .ok root => ofRoot root (Node.allDistinct_of_ofValue data h)

def size (g : Grammar) : Nat := g.root.size

-- How messages name a tree.
def summary (g : Grammar) : Text :=
  "GrammarTree(commands=" ++ toString g.root.children.length ++ ", nodes=" ++ toString g.size ++ ")"

end Grammar

end CommandCompletion
