import CommandCompletion.Text.Location
import CommandCompletion.Text.Quoted

namespace CommandCompletion.Toml

-- What may be wrong with the characters of a document.
inductive Mistake
  | noStatement
  | noLineEnd
  | declaredTwice (key : List Text)
  | overwritten
  | noTableEnd
  | noArrayTableEnd
  | immutable (key : List Text)
  | redefined (key : List Text)
  | repeatedKey (name : Text)
  | noEquals
  | noKey
  | unclosedArray
  | unclosedTable
  | unterminated
  | expected (closing : String)
  | invalidCharacter (c : Char)
  | illegalCharacter (c : Char)
  | badEscape
  | badHex
  | notScalar
  | badDate
  | noValue
deriving DecidableEq, Repr

-- A key as messages show it: its parts in parentheses, a comma after a single one.
def keyText (key : List Text) : Text :=
  match key with
  | [part] => "(" ++ quote part ++ ",)"
  | parts => "(" ++ Text.join ", " (parts.map quote) ++ ")"

def Mistake.message : Mistake → Text
  | noStatement => "Invalid statement"
  | noLineEnd => "Expected newline or end of document after a statement"
  | declaredTwice key => "Cannot declare " ++ keyText key ++ " twice"
  | overwritten => "Cannot overwrite a value"
  | noTableEnd => "Expected ']' at the end of a table declaration"
  | noArrayTableEnd => "Expected ']]' at the end of an array declaration"
  | immutable key => "Cannot mutate immutable namespace " ++ keyText key
  | redefined key => "Cannot redefine namespace " ++ keyText key
  | repeatedKey name => "Duplicate inline table key " ++ quote name
  | noEquals => "Expected '=' after a key in a key/value pair"
  | noKey => "Invalid initial character for a key part"
  | unclosedArray => "Unclosed array"
  | unclosedTable => "Unclosed inline table"
  | unterminated => "Unterminated string"
  | expected closing => "Expected " ++ quote closing
  | invalidCharacter c => "Found invalid character " ++ quote [c]
  | illegalCharacter c => "Illegal character " ++ quote [c]
  | badEscape => "Unescaped '\\' in a string"
  | badHex => "Invalid hex value"
  | notScalar => "Escaped character is not a Unicode scalar value"
  | badDate => "Invalid date or datetime"
  | noValue => "Invalid value"

-- A document is refused for a mistake at some place, the end of the document if there is none, for
-- a whole number of too many digits, or for values too deep inside others.
inductive Fault
  | malformed (mistake : Mistake) (place : Option Text.Location)
  | longNumber
  | tooDeep
deriving DecidableEq, Repr

def Fault.message : Fault → Text
  | malformed mistake none => mistake.message ++ " (at end of document)"
  | malformed mistake (some place) =>
    mistake.message ++ " (at line " ++ toString place.line ++ ", column " ++
      toString place.column ++ ")"
  | longNumber => "number of too many digits"
  | tooDeep => "values too deep inside others"

-- While reading, a place is given by the text that is left there.
inductive Stop
  | malformed (mistake : Mistake) (rest : List Char)
  | longNumber
  | tooDeep
deriving DecidableEq, Repr

def Stop.fault (document : List Char) : Stop → Fault
  | longNumber => .longNumber
  | tooDeep => .tooDeep
  | malformed mistake [] => .malformed mistake none
  | malformed mistake rest =>
    .malformed mistake (some (Text.locate (document.take (document.length - rest.length))))

end CommandCompletion.Toml
