import CommandCompletion.Toml.Quoted
import CommandCompletion.Data.Value

namespace CommandCompletion.Toml

-- What a document cannot hold: a null, a number of too many digits, half a character, and values
-- too deep inside others.
inductive Unprintable
  | null
  | longNumber
  | halfText
  | tooDeep
deriving DecidableEq, Repr

def Unprintable.message : Unprintable → Text
  | null => "Object of type '" ++ Value.null.kindName ++ "' is not TOML serializable"
  | longNumber => "number of too many digits"
  | halfText => "text that is not Unicode"
  | tooDeep => "values too deep inside others"

-- A tab stands as it is; other controls are escaped.
def escapedChar (c : Char) : List Char :=
  if c = '"' || c = '\\' then ['\\', c]
  else if c = '\x08' then ['\\', 'b']
  else if c = '\n' then ['\\', 'n']
  else if c = '\x0c' then ['\\', 'f']
  else if c = '\r' then ['\\', 'r']
  else if isIllegal false c then '\\' :: 'u' :: Text.hex 4 c.toNat
  else [c]

def escaped : CodePoint → Text
  | .char c => .ofChars (escapedChar c)
  | half => [half]

def quotedText (text : Text) : Text :=
  "\"" ++ text.flatMap escaped ++ "\""

-- A name is quoted unless all of its characters may stand in a bare key, and there is one.
def keyPart (name : Text) : Text :=
  if !name.isEmpty && name.all (·.char?.any isBareKeyChar) then name else quotedText name

def indentation (level : Nat) : Text :=
  List.replicate (4 * level) ' '

mutual

-- A value behind its key. Lists have one line for each item; tables stand on one line.
def inline (level : Nat) : Value → Except Unprintable Text
  | .null => .error .null
  | .bool b => .ok (if b then "true" else "false")
  | .int n => if Value.isLongNumber n then .error .longNumber else .ok (toString n)
  | .double d => .ok d.text
  | .text s => .ok (quotedText s)
  | .moment m => .ok m.text
  | .list [] => .ok "[]"
  | .list items => do
    return "[\n" ++ (← inlineItems level items) ++ indentation level ++ "]"
  | .table [] => .ok "\x7b\x7d"
  | .table ((name, value) :: members) => do
    let first ← inline 0 value
    let others ← inlineMembers members
    return "\x7b " ++ keyPart name ++ " = " ++ first ++ others ++ " \x7d"

def inlineItems (level : Nat) : List Value → Except Unprintable Text
  | [] => .ok []
  | item :: items => do
    let first ← inline (level + 1) item
    let others ← inlineItems level items
    return indentation (level + 1) ++ first ++ ",\n" ++ others

def inlineMembers : List (Text × Value) → Except Unprintable Text
  | [] => .ok []
  | (name, value) :: members => do
    let first ← inline 0 value
    let others ← inlineMembers members
    return ", " ++ keyPart name ++ " = " ++ first ++ others

end

mutual

-- How much room a value takes behind its key: three parts for each list and each table in it, one
-- inside the other.
def roomFor : Value → Nat
  | .list items => roomForItems items + 3
  | .table members => roomForMembers members + 3
  | _ => 0

def roomForItems : List Value → Nat
  | [] => 0
  | item :: items => max (roomFor item) (roomForItems items)

def roomForMembers : List (Text × Value) → Nat
  | [] => 0
  | (_, value) :: members => max (roomFor value) (roomForMembers members)

end

-- The room for values inside others, and for sections inside others.
def printRoom : Nat := 985

-- A value on its line or lines, unless it takes too much room.
def behindKey (value : Value) : Except Unprintable Text :=
  if printRoom < roomFor value then .error .tooDeep else inline 0 value

def maxLine : Nat := 100

-- Whether every table of a list fits on an indented line of its own. The first that does not
-- settles it.
def fitInline : List Value → Except Unprintable Bool
  | [] => .ok true
  | item :: items => do
    let line := indentation 1 ++ (← behindKey item) ++ ","
    if line.length ≤ maxLine && !line.contains '\n' then fitInline items else return false

def isTable : Value → Bool
  | .table _ => true
  | _ => false

-- Whether a value is printed in sections of its own: a table, or a list of tables that do not all
-- fit inline.
def isSection : Value → Except Unprintable Bool
  | .table _ => .ok true
  | .list items =>
    if !items.isEmpty && items.all isTable then (fitInline items).map (!·) else .ok false
  | _ => .ok false

-- The part of a document that was printed, up to a fault if there was one.
structure Printout where
  text : List Char
  fault : Option Unprintable := none

namespace Printout

-- Characters that are printed together or, if there are halves among them, not at all.
def ofText (text : Text) : Printout :=
  match text.chars? with
  | some chars => ⟨chars, none⟩
  | none => ⟨[], some .halfText⟩

def andThen (first : Printout) (next : Printout) : Printout :=
  match first.fault with
  | some _ => first
  | none => ⟨first.text ++ next.text, next.fault⟩

end Printout

-- Members on lines of their own, up to the first that cannot be printed.
def lines : List (Text × Value) → Printout
  | [] => ⟨[], none⟩
  | (name, value) :: members =>
    match behindKey value with
    | .error fault => ⟨[], some fault⟩
    | .ok text =>
      (Printout.ofText (keyPart name ++ " = " ++ text ++ "\n")).andThen (lines members)

-- Each member with whether it is printed in sections.
def sorted : List (Text × Value) → Except Unprintable (List (Bool × Text × Value))
  | [] => .ok []
  | (name, value) :: members => do
    let own ← isSection value
    return (own, name, value) :: (← sorted members)

def headerText (item : Bool) (name : Text) : Text :=
  if item then "[[" ++ name ++ "]]\n" else "[" ++ name ++ "]\n"

-- The start of a section: its header and its plain members. A table that holds only sections has
-- no header of its own.
def opening (name : Text) (item : Bool) (members : List (Text × Value)) : Printout :=
  match sorted members with
  | .error fault => ⟨[], some fault⟩
  | .ok entries =>
    let plain := (entries.filter (!·.1)).map (·.2)
    let headed := item || (!name.isEmpty && (!plain.isEmpty || entries.isEmpty))
    (Printout.ofText (if headed then headerText item name else [])).andThen (lines plain)

def dotted (name part : Text) : Text :=
  if name.isEmpty then keyPart part else name ++ "." ++ keyPart part

-- Sections stand one inside the other only as long as there is room for them.
def entering (room : Nat) (start : Printout) : Printout :=
  if room = 0 then ⟨[], some .tooDeep⟩ else start

-- An empty line stands before every section but the first of a table without text of its own.
def gap (printed : Bool) : Printout :=
  .ofText (if printed then "\n" else [])

mutual

-- The sections of a table, after its plain members. `printed` tells whether anything of the table
-- stands before them. Each section takes a part of the room from those inside it.
def sections (room : Nat) (name : Text) (printed : Bool) : List (Text × Value) → Printout
  | [] => ⟨[], none⟩
  | (part, .table inner) :: members =>
    let start := entering room (opening (dotted name part) false inner)
    let own := ((gap printed).andThen start).andThen
      (sections (room - 1) (dotted name part) (!start.text.isEmpty) inner)
    own.andThen (sections room name true members)
  | (part, .list items) :: members =>
    match isSection (.list items) with
    | .ok true =>
      (itemSections room (dotted name part) printed items).andThen (sections room name true members)
    | _ => sections room name printed members
  | _ :: members => sections room name printed members

def itemSections (room : Nat) (name : Text) (printed : Bool) : List Value → Printout
  | [] => ⟨[], none⟩
  | .table inner :: items =>
    let start := entering room (opening name true inner)
    let own := ((gap printed).andThen start).andThen
      (sections (room - 1) name (!start.text.isEmpty) inner)
    own.andThen (itemSections room name true items)
  | _ :: items => itemSections room name printed items

end

-- A document: the plain members first, then a section for each table.
def print (members : List (Text × Value)) : Printout :=
  let start := opening [] false members
  start.andThen (sections printRoom [] (!start.text.isEmpty) members)

end CommandCompletion.Toml
