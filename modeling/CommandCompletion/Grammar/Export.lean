import CommandCompletion.Grammar.Node

namespace CommandCompletion

namespace Value

mutual

-- Data as it is exported: nulls stand for the numbers that have no decimal digits, and names are
-- whole texts.
def exported : Value → Value
  | double d => if d.isNaN || d.isInfinite then null else double d
  | list items => list (exportedItems items)
  | table members => table (Dict.ofList (exportedMembers members))
  | v => v

def exportedItems : List Value → List Value
  | [] => []
  | item :: items => item.exported :: exportedItems items

def exportedMembers : List (Text × Value) → List (Text × Value)
  | [] => []
  | (name, value) :: rest =>
    (name.whole, value.exported) :: exportedMembers rest

end

mutual

-- How many values stand one inside the other.
def depth : Value → Nat
  | list items => depthOfItems items + 1
  | table members => depthOfMembers members + 1
  | _ => 1

def depthOfItems : List Value → Nat
  | [] => 0
  | item :: items => max item.depth (depthOfItems items)

def depthOfMembers : List (Text × Value) → Nat
  | [] => 0
  | (_, value) :: rest => max value.depth (depthOfMembers rest)

end

end Value

namespace Node

mutual

-- How many nodes and values of properties stand one below the other.
def depth : Node → Nat
  | ⟨_, children, _, _, _, properties⟩ =>
    max (depthOfChildren children) (Value.depthOfMembers (properties.getD [])) + 1

def depthOfChildren : List (Text × Node) → Nat
  | [] => 0
  | (_, child) :: rest => max child.depth (depthOfChildren rest)

end

-- A member that may be left out.
def member (name : Text) (value : Option Value) : List (Text × Value) :=
  (value.map (name, ·)).toList

mutual

-- A node as data. What has its usual value is left out.
def toValue : Node → Value
  | ⟨kind, children, executable, redirect, parser, properties⟩ =>
    .table <|
      member "type" (some (.text kind.name)) ++
        member "children"
          (if children.isEmpty then none else some (.table (Dict.ofList (childValues children)))) ++
        member "executable" (if executable then some (.bool true) else none) ++
        member "redirect" (redirect.map fun path => .list (path.map .text)) ++
        member "parser" (parser.map .text) ++
        member "properties" (properties.map fun members => (Value.table members).exported)

def childValues : List (Text × Node) → List (Text × Value)
  | [] => []
  | (name, child) :: rest =>
    (name.whole, child.toValue) :: childValues rest

end

end Node

end CommandCompletion
