import CommandCompletion.Toml.Moment
import CommandCompletion.Toml.Number
import CommandCompletion.Toml.Quoted

namespace CommandCompletion.Toml

-- Changes the table at the end of a key. Tables on the way are made if they are missing; where
-- `lists` holds, a list on the way stands for its last item. Anything else on the way blocks it.
def changeAt (lists : Bool) (change : Dict Value → Option (Dict Value)) :
    List Text → Dict Value → Option (Dict Value)
  | [], members => change members
  | part :: key, members =>
    match (members.get? part).getD (.table []) with
    | .table inner => (changeAt lists change key inner).map fun t => members.insert part (.table t)
    | .list items =>
      if lists then
        match items.getLast? with
        | some (.table inner) =>
          (changeAt lists change key inner).map fun t =>
            members.insert part (.list (items.dropLast ++ [.table t]))
        | _ => none
      else none
    | _ => none

-- A name in a table is given a value once.
def addMember (name : Text) (value : Value) (members : Dict Value) : Option (Dict Value) :=
  if members.contains name then none else some (members.insert name value)

-- One more empty table in the list under a name.
def addItem (name : Text) (members : Dict Value) : Option (Dict Value) :=
  match members.get? name with
  | none => some (members.insert name (.list [.table []]))
  | some (.list items) => some (members.insert name (.list (items ++ [.table []])))
  | some _ => none

-- Whether a key leads into or to one of the frozen ones.
def isFrozen (frozen : List (List Text)) (key : List Text) : Bool :=
  frozen.any (·.isPrefixOf key)

def isContainer : Value → Bool
  | .list _ => true
  | .table _ => true
  | _ => false

def ifSome {α : Type} (mistake : Mistake) (rest : List Char) : Option α → Except Stop α
  | some a => .ok a
  | none => .error (.malformed mistake rest)

-- Blanks, line ends and comments between the items of a list.
def skipBetween : Nat → List Char → Except Stop (List Char)
  | 0, text => .ok text
  | fuel + 1, text => do
    let rest ← skipComment (text.dropWhile isSpaceOrLine)
    if rest.length = text.length then return rest else skipBetween fuel rest

def skipFiller (text : List Char) : Except Stop (List Char) :=
  skipBetween (text.length + 1) text

def scanQuoted? (text : List Char) : Option (Except Stop (Text × List Char)) :=
  let finish (mark : Char) (read : Except Stop (List Char × List Char)) :=
    some (read.map fun (s, rest) =>
      let (s, rest) := extraQuotes mark s rest
      (Text.ofChars s, rest))
  let plain (read : Except Stop (List Char × List Char)) :=
    some (read.map fun (s, rest) => (Text.ofChars s, rest))
  match text with
  | '"' :: '"' :: '"' :: rest => finish '"' (scanBasic true .nothing (dropLineFeed rest))
  | '"' :: rest => plain (scanBasic false .nothing rest)
  | '\'' :: '\'' :: '\'' :: rest =>
    finish '\'' (scanLiteral true ['\'', '\'', '\''] (dropLineFeed rest))
  | '\'' :: rest => plain (scanLiteral false ['\''] rest)
  | _ => none

-- A value that holds no other values.
def scanSimple (text : List Char) : Except Stop (Value × List Char) :=
  match scanQuoted? text with
  | some read => read.map fun (s, rest) => (.text s, rest)
  | none =>
    if "true".toList.isPrefixOf text then .ok (.bool true, text.drop 4)
    else if "false".toList.isPrefixOf text then .ok (.bool false, text.drop 5)
    else
      match scanMoment? text with
      | some read => read.map fun (m, rest) => (.moment m, rest)
      | none => (scanNumber? text).getD (.error (.malformed .noValue text))

-- The key and the equals sign in front of a value, with the blanks behind it.
def scanKeyEquals (text : List Char) : Except Stop (List Text × List Char) := do
  let (key, rest) ← scanKey text
  match rest with
  | '=' :: rest => return (key, skipSpaces rest)
  | _ => .error (.malformed .noEquals rest)

-- Puts a value into an inline table. Lists and tables that stand in it already cannot be added to.
def addInline (frozen : List (List Text)) (key : List Text) (value : Value)
    (members : Dict Value) (rest : List Char) : Except Stop (Dict Value) := do
  if isFrozen frozen key then .error (.malformed (.immutable key) rest)
  let name := key.getLastD ""
  let missing (m : Dict Value) : Option (Dict Value) := if m.contains name then none else some m
  let _ ← ifSome .overwritten rest (changeAt false some key.dropLast members)
  let _ ← ifSome (.repeatedKey name) rest (changeAt false missing key.dropLast members)
  ifSome .overwritten rest (changeAt false (addMember name value) key.dropLast members)

-- The room for values inside others.
def maxRoom : Nat := 985

mutual

-- One value at the start of a text, and what follows it. A list takes two parts of the room for
-- values inside others, an inline table three. The fuel bounds the number of steps.
def scanValue (room : Nat) : Nat → List Char → Except Stop (Value × List Char)
  | 0, text => .error (.malformed .noValue text)
  | fuel + 1, text =>
    match text with
    | '[' :: rest =>
      if room < 2 then .error .tooDeep
      else do
        match ← skipFiller rest with
        | ']' :: rest => return (.list [], rest)
        | rest => (scanItems (room - 2) fuel rest).map fun (items, rest) => (.list items, rest)
    | '\x7b' :: rest =>
      if room < 3 then .error .tooDeep
      else
        match skipSpaces rest with
        | '\x7d' :: rest => .ok (.table [], rest)
        | rest =>
          (scanMembers (room - 3) fuel [] [] rest).map fun (members, rest) => (.table members, rest)
    | _ => scanSimple text

-- The items of a list up to its closing bracket. There is at least one; a comma may follow the
-- last.
def scanItems (room : Nat) : Nat → List Char → Except Stop (List Value × List Char)
  | 0, text => .error (.malformed .noValue text)
  | fuel + 1, text => do
    let (item, rest) ← scanValue room fuel text
    match ← skipFiller rest with
    | ']' :: rest => return ([item], rest)
    | ',' :: rest =>
      match ← skipFiller rest with
      | ']' :: rest => return ([item], rest)
      | rest =>
        let (items, rest) ← scanItems room fuel rest
        return (item :: items, rest)
    | rest => .error (.malformed .unclosedArray rest)

-- The members of an inline table up to its closing brace. There is at least one more.
def scanMembers (room : Nat) : Nat → List (List Text) → Dict Value → List Char →
    Except Stop (Dict Value × List Char)
  | 0, _, _, text => .error (.malformed .noValue text)
  | fuel + 1, frozen, members, text => do
    let (key, rest) ← scanKeyEquals text
    let (value, rest) ← scanValue room fuel rest
    let members ← addInline frozen key value members rest
    match skipSpaces rest with
    | '\x7d' :: rest => return (members, rest)
    | ',' :: rest =>
      scanMembers room fuel (if isContainer value then key :: frozen else frozen) members
        (skipSpaces rest)
    | rest => .error (.malformed .unclosedTable rest)

end

-- What has been read of a document. Keys given as a header are declared; tables made by a dotted
-- key count as declared from the next header on. Lists and tables written as values are frozen.
structure Draft where
  members : Dict Value := []
  header : List Text := []
  declared : List (List Text) := []
  pending : List (List Text) := []
  frozen : List (List Text) := []

namespace Draft

def isDeclared (d : Draft) (key : List Text) : Bool :=
  d.declared.contains key

def settle (d : Draft) : Draft :=
  { d with declared := d.pending ++ d.declared, pending := [] }

-- A header opens a table that no header opened before.
def openTable (d : Draft) (key : List Text) (rest : List Char) : Except Stop Draft := do
  if d.isDeclared key || isFrozen d.frozen key then
    .error (.malformed (.declaredTwice key) rest)
  let members ← ifSome .overwritten rest (changeAt true some key d.members)
  return { d with members := members, header := key, declared := key :: d.declared }

-- A double header opens one more table of a list. What was known below its key is forgotten.
def openItem (d : Draft) (key : List Text) (rest : List Char) : Except Stop Draft := do
  if isFrozen d.frozen key then .error (.malformed (.immutable key) rest)
  let members ← ifSome .overwritten rest
    (changeAt true (addItem (key.getLastD "")) key.dropLast d.members)
  return { d with
    members := members, header := key,
    declared := key :: d.declared.filter (!key.isPrefixOf ·),
    frozen := d.frozen.filter (!key.isPrefixOf ·) }

-- The tables that a dotted key passes through, outermost first.
def passed (d : Draft) (key : List Text) : List (List Text) :=
  (List.range (key.length - 1)).map fun i => d.header ++ key.take (i + 1)

def addValue (d : Draft) (key : List Text) (value : Value) (rest : List Char) :
    Except Stop Draft := do
  match (d.passed key).find? d.isDeclared with
  | some opened => .error (.malformed (.redefined opened) rest)
  | none =>
    let parent := d.header ++ key.dropLast
    if isFrozen d.frozen parent then .error (.malformed (.immutable parent) rest)
    let members ← ifSome .overwritten rest
      (changeAt true (addMember (key.getLastD "") value) parent d.members)
    return { d with
      members := members, pending := d.passed key ++ d.pending,
      frozen := if isContainer value then (d.header ++ key) :: d.frozen else d.frozen }

end Draft

def closeHeader (closing : List Char) (mistake : Mistake) (text : List Char) :
    Except Stop (List Char) :=
  if closing.isPrefixOf text then .ok (text.drop closing.length)
  else .error (.malformed mistake text)

def isKeyStart (c : Char) : Bool :=
  isBareKeyChar c || c = '"' || c = '\''

-- One statement without the blanks behind it: a header, a key with its value, or nothing.
def scanStatement (d : Draft) (text : List Char) : Except Stop (Draft × List Char) :=
  match text with
  | '[' :: '[' :: rest => do
    let (key, rest) ← scanKey (skipSpaces rest)
    let d ← d.settle.openItem key rest
    return (d, ← closeHeader [']', ']'] .noArrayTableEnd rest)
  | '[' :: rest => do
    let (key, rest) ← scanKey (skipSpaces rest)
    let d ← d.settle.openTable key rest
    return (d, ← closeHeader [']'] .noTableEnd rest)
  | c :: _ =>
    if isKeyStart c then do
      let (key, rest) ← scanKeyEquals text
      let (value, rest) ← scanValue maxRoom (2 * rest.length + 2) rest
      return (← d.addValue key value rest, rest)
    else if c = '#' then .ok (d, text)
    else .error (.malformed .noStatement text)
  | [] => .ok (d, [])

-- Reads statements, one a line. Each line end is passed once, so the text bounds their number.
def scanLines : Nat → Draft → List Char → Except Stop Draft
  | 0, d, _ => .ok d
  | fuel + 1, d, text =>
    match skipSpaces text with
    | [] => .ok d
    | '\n' :: rest => scanLines fuel d rest
    | text => do
      let (d, rest) ← scanStatement d text
      match ← skipComment (skipSpaces rest) with
      | [] => return d
      | '\n' :: rest => scanLines fuel d rest
      | rest => .error (.malformed .noLineEnd rest)

-- Line ends of two characters are read as one.
def joinLineEnds : List Char → List Char
  | '\r' :: '\n' :: rest => '\n' :: joinLineEnds rest
  | c :: rest => c :: joinLineEnds rest
  | [] => []

-- Reads a document.
def read (text : List Char) : Except Fault (Dict Value) :=
  let text := joinLineEnds text
  match scanLines (text.length + 1) {} text with
  | .ok d => .ok d.members
  | .error stop => .error (stop.fault text)

end CommandCompletion.Toml
