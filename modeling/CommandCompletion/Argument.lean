import CommandCompletion.Candidate
import CommandCompletion.Grammar.Node
import CommandCompletion.Registries

namespace CommandCompletion

-- The kinds of argument that the program knows something about.
inductive Argument
  | entity
  | blockPos
  | vec3
  | rotation
  | itemStack
  | blockState
  | blockPredicate
  | other
deriving DecidableEq, Repr

namespace Argument

def name : Argument → String
  | entity => "entity"
  | blockPos => "block_pos"
  | vec3 => "vec3"
  | rotation => "rotation"
  | itemStack => "item_stack"
  | blockState => "block_state"
  | blockPredicate => "block_predicate"
  | other => "other"

def all : List Argument :=
  [entity, blockPos, vec3, rotation, itemStack, blockState, blockPredicate, other]

-- The kind a parser identifier stands for, with or without its namespace.
def ofParser : Option Text → Argument
  | none => other
  | some parser => (all.find? (·.name = stripNamespace parser)).getD other

-- The number of words that an argument consists of.
def width : Argument → Nat
  | blockPos => 3
  | vec3 => 3
  | rotation => 2
  | _ => 1

-- Selectors without their filters.
def selectors : List (Text × Text) :=
  [("@p", "the nearest player"), ("@r", "a random player"), ("@a", "all players"),
    ("@e", "all entities"), ("@s", "the entity executing the command"),
    ("@n", "the nearest entity")]

-- The same sign for each coordinate.
def repeated (sign : Text) (a : Argument) : Text :=
  Text.join " " (List.replicate a.width sign)

def relative (documentation : Text) (a : Argument) : Candidate :=
  ⟨repeated "~" a, .literalValue, some documentation, []⟩

def localOffset (a : Argument) : Candidate :=
  ⟨repeated "^" a, .literalValue,
    some "local coordinates, relative to where the executor is looking", []⟩

def identifiers (names : List Text) : List Candidate :=
  names.map fun name => ⟨name, .enumValue, none, []⟩

-- Everything that could stand for an argument, before the typed text is looked at.
def candidates (r : Registries) : Argument → List Candidate
  | entity =>
    selectors.map fun (label, documentation) => ⟨label, .enumValue, some documentation, []⟩
  | blockPos => [relative "relative to the executing position" blockPos, localOffset blockPos]
  | vec3 => [relative "relative to the executing position" vec3, localOffset vec3]
  | rotation => [relative "relative to the executing rotation" rotation]
  | itemStack => identifiers (r.get "item")
  | blockState => identifiers (r.get "block")
  | blockPredicate => identifiers (r.get "block")
  | other => []

end Argument

def Node.argument (node : Node) : Argument :=
  Argument.ofParser node.parser

end CommandCompletion
