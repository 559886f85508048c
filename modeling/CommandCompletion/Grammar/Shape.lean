import CommandCompletion.Grammar.Node

namespace CommandCompletion

-- Where in the data a value stands: member names and list indexes, outermost first.
inductive Crumb
  | member (name : Text)
  | index (i : Nat)
deriving DecidableEq, Repr

-- How a value fails to be what its place asks for.
inductive Mismatch
  | notNode
  | missing
  | notKind
  | notTable
  | notBoolWord
  | notBool
  | notPath
  | notText
  | halfText
  | tooDeep
deriving DecidableEq, Repr

structure Misfit where
  place : List Crumb
  mismatch : Mismatch
deriving DecidableEq, Repr

-- A value read from data, or everything that is wrong with the data.
abbrev Checked (α : Type) := Except (List Misfit) α

namespace Checked

variable {α : Type}

def misfits : Checked α → List Misfit
  | .ok _ => []
  | .error found => found

def refuse (place : List Crumb) (mismatch : Mismatch) : Checked α :=
  .error [⟨place, mismatch⟩]

-- What is found inside a member is placed under its name.
def within (crumb : Crumb) : Checked α → Checked α
  | .ok value => .ok value
  | .error found => .error (found.map fun m => ⟨crumb :: m.place, m.mismatch⟩)

end Checked

namespace Node

open Checked

-- The member under its first name, or else under its second one, with the name that was used.
def eitherMember (members : Dict Value) (first second : Text) : Option (Text × Value) :=
  match members.get? first with
  | some v => some (first, v)
  | none => (members.get? second).map (second, ·)

def kindOf (members : Dict Value) : Checked Kind :=
  match eitherMember members "type" "kind" with
  | none => refuse [.member "type"] .missing
  | some (name, .text s) =>
    match Kind.ofName? s with
    | some kind => .ok kind
    | none => refuse [.member name] (if s.hasHalf then .halfText else .notKind)
  | some (name, _) => refuse [.member name] .notKind

def trueWords : List Text := ["1", "on", "t", "true", "y", "yes"]

def falseWords : List Text := ["0", "off", "f", "false", "n", "no"]

def isWord (n : Int) : Bool :=
  -9223372036854775808 ≤ n && n < 9223372036854775808

-- Numbers equal to zero or one stand for truth values, and so do some words in any case.
def executableOf (members : Dict Value) : Checked Bool :=
  let place := [Crumb.member "executable"]
  match members.get? "executable" with
  | none => .ok false
  | some (.bool b) => .ok b
  | some (.int n) =>
    if n = 0 then .ok false
    else if n = 1 then .ok true
    else refuse place (if isWord n then .notBoolWord else .notBool)
  | some (.double d) =>
    if d.isZero then .ok false
    else if d = Double.ofDecimal false 1 0 then .ok true
    else refuse place (if d.isWord then .notBoolWord else .notBool)
  | some (.text s) =>
    let word := s.asciiLower
    if trueWords.contains word then .ok true
    else if falseWords.contains word then .ok false
    else refuse place (if s.hasHalf then .halfText else .notBoolWord)
  | some _ => refuse place .notBool

-- The names in a list of texts, from its `i`-th item on.
def namesFrom (i : Nat) : List Value → Checked (List Text)
  | [] => .ok []
  | item :: items =>
    match item, namesFrom (i + 1) items with
    | .text s, .ok names => .ok (s :: names)
    | .text _, .error found => .error found
    | _, rest => .error (⟨[.index i], .notText⟩ :: misfits rest)

-- A redirect to a child of the root may be written as its bare name.
def redirectOf (members : Dict Value) : Checked (Option Path) :=
  match members.get? "redirect" with
  | none | some .null => .ok none
  | some (.text s) => .ok (some [s])
  | some (.list items) => within (.member "redirect") ((namesFrom 0 items).map some)
  | some _ => refuse [.member "redirect"] .notPath

def parserOf (members : Dict Value) : Checked (Option Text) :=
  match members.get? "parser" with
  | none | some .null => .ok none
  | some (.text s) => .ok (some s)
  | some _ => refuse [.member "parser"] .notText

def propertiesOf (members : Dict Value) : Checked (Option (List (Text × Value))) :=
  match eitherMember members "properties" "parser_properties" with
  | none | some (_, .null) => .ok none
  | some (_, .table properties) => .ok (some properties)
  | some (name, _) => refuse [.member name] .notTable

-- A node needs all its parts; the misfits of all of them are reported.
def assemble (kind : Checked Kind) (children : Checked (List (Text × Node)))
    (executable : Checked Bool) (redirect : Checked (Option Path))
    (parser : Checked (Option Text))
    (properties : Checked (Option (List (Text × Value)))) : Checked Node :=
  match kind, children, executable, redirect, parser, properties with
  | .ok kind, .ok children, .ok executable, .ok redirect, .ok parser, .ok properties =>
    .ok ⟨kind, children, executable, redirect, parser, properties⟩
  | _, _, _, _, _, _ =>
    .error (misfits kind ++ misfits children ++ misfits executable ++ misfits redirect ++
      misfits parser ++ misfits properties)

-- How many nodes may stand one below the other.
def maxDepth : Nat := 255

mutual

-- Reads a node and everything below it; `depth` nodes stand above it. Members that a node has no
-- use for are passed over.
def readBelow (depth : Nat) : Value → Checked Node
  | .table members =>
    if maxDepth ≤ depth then refuse [] .tooDeep
    else
      assemble (kindOf members) (childrenIn depth members) (executableOf members)
        (redirectOf members) (parserOf members) (propertiesOf members)
  | _ => refuse [] (if maxDepth ≤ depth then .tooDeep else .notNode)

def childrenIn (depth : Nat) : List (Text × Value) → Checked (List (Text × Node))
  | [] => .ok []
  | (name, value) :: rest =>
    if name = "children" then within (.member "children") (childrenOf depth value)
    else childrenIn depth rest

def childrenOf (depth : Nat) : Value → Checked (List (Text × Node))
  | .null => .ok []
  | .table members =>
    match namedNodes depth members with
    | .ok children => .ok (Dict.ofList children)
    | .error found => .error found
  | _ => refuse [] .notTable

def namedNodes (depth : Nat) : List (Text × Value) → Checked (List (Text × Node))
  | [] => .ok []
  | (name, value) :: rest =>
    match within (.member name) (readBelow (depth + 1) value), namedNodes depth rest with
    | .ok child, .ok others => .ok ((name, child) :: others)
    | child, others => .error (misfits child ++ misfits others)

end

-- Reads a node that stands below no other.
def ofValue (data : Value) : Checked Node :=
  readBelow 0 data

end Node

end CommandCompletion
