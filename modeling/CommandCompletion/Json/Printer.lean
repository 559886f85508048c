import CommandCompletion.Data.Value

namespace CommandCompletion.Json

-- Characters outside ASCII are written by their code units, so that any channel carries them.
def unitEscape (unit : Nat) : List Char :=
  '\\' :: 'u' :: Text.hex 4 unit

def escapedChar (c : Char) : List Char :=
  if c = '"' || c = '\\' then ['\\', c]
  else if c = '\n' then ['\\', 'n']
  else if c = '\r' then ['\\', 'r']
  else if c = '\t' then ['\\', 't']
  else if c = '\x08' then ['\\', 'b']
  else if c = '\x0c' then ['\\', 'f']
  else if 32 ≤ c.toNat && c.toNat ≤ 126 then [c]
  else if c.toNat < 0x10000 then unitEscape c.toNat
  else
    let excess := c.toNat - 0x10000
    unitEscape (0xD800 + excess / 0x400) ++ unitEscape (0xDC00 + excess % 0x400)

def escaped : CodePoint → List Char
  | .char c => escapedChar c
  | half => unitEscape half.toNat

def quotedText (text : Text) : List Char :=
  '"' :: text.flatMap escaped ++ ['"']

-- The three numbers that decimal digits cannot write have words of their own.
def doubleText (d : Double) : List Char :=
  if d.isNaN then "NaN".toList
  else if d.isInfinite then (if d.sign then "-Infinity".toList else "Infinity".toList)
  else d.text.toList

def newline (indent : Nat) : List Char :=
  '\n' :: List.replicate (2 * indent) ' '

mutual

-- A value on lines of its own, each level indented by two, in front of the text after it.
def printBefore (after : List Char) (indent : Nat) : Value → List Char
  | .null => "null".toList ++ after
  | .bool true => "true".toList ++ after
  | .bool false => "false".toList ++ after
  | .int n => (toString n).toList ++ after
  | .double d => doubleText d ++ after
  | .text s => quotedText s ++ after
  | .moment m => quotedText m.text ++ after
  | .list [] => '[' :: ']' :: after
  | .list (item :: items) =>
    '[' :: (newline (indent + 1) ++
      printBefore (printItemsBefore (newline indent ++ ']' :: after) (indent + 1) items)
        (indent + 1) item)
  | .table [] => '\x7b' :: '\x7d' :: after
  | .table ((name, value) :: members) =>
    '\x7b' :: (newline (indent + 1) ++ (quotedText name ++ ':' :: ' ' ::
      printBefore (printMembersBefore (newline indent ++ '\x7d' :: after) (indent + 1) members)
        (indent + 1) value))

-- The other items of a list.
def printItemsBefore (after : List Char) (indent : Nat) : List Value → List Char
  | [] => after
  | item :: items =>
    ',' :: (newline indent ++ printBefore (printItemsBefore after indent items) indent item)

-- The other members of a table.
def printMembersBefore (after : List Char) (indent : Nat) : List (Text × Value) → List Char
  | [] => after
  | (name, value) :: members =>
    ',' :: (newline indent ++ (quotedText name ++ ':' :: ' ' ::
      printBefore (printMembersBefore after indent members) indent value))

end

-- A value at the level of a document.
def print (v : Value) : List Char :=
  printBefore [] 0 v

-- A document ends with its value; no newline follows.
def write (v : Value) : String :=
  String.ofList (print v)

end CommandCompletion.Json
