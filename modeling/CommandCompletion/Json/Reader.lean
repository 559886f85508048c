import CommandCompletion.Data.Value
import CommandCompletion.Text.Digit
import CommandCompletion.Text.Location

namespace CommandCompletion.Json

-- What may be wrong with the characters of a document.
inductive Mistake
  | byteOrderMark
  | noValue
  | noName
  | noColon
  | noComma
  | unterminatedText
  | controlCharacter
  | badEscape
  | badCodeUnit
  | extraData
deriving DecidableEq, Repr

def Mistake.message : Mistake → String
  | byteOrderMark => "Unexpected UTF-8 BOM (decode using utf-8-sig)"
  | noValue => "Expecting value"
  | noName => "Expecting property name enclosed in double quotes"
  | noColon => "Expecting ':' delimiter"
  | noComma => "Expecting ',' delimiter"
  | unterminatedText => "Unterminated string starting at"
  | controlCharacter => "Invalid control character at"
  | badEscape => "Invalid \\escape"
  | badCodeUnit => "Invalid \\uXXXX escape"
  | extraData => "Extra data"

-- A document is refused for a mistake at some place, for a whole number of too many digits, or for
-- values too deep inside others.
inductive Fault
  | malformed (mistake : Mistake) (place : Text.Location)
  | longNumber
  | tooDeep
deriving DecidableEq, Repr

-- While reading, a place is given by the text that is left there.
inductive Stop
  | malformed (mistake : Mistake) (rest : List Char)
  | longNumber
  | tooDeep
deriving DecidableEq, Repr

def isGap (c : Char) : Bool :=
  c = ' ' || c = '\t' || c = '\n' || c = '\r'

def skipGap (text : List Char) : List Char :=
  text.dropWhile isGap

def hexDigit? (c : Char) : Option Nat :=
  if '0' ≤ c && c ≤ '9' then some (c.toNat - '0'.toNat)
  else if 'a' ≤ c && c ≤ 'f' then some (c.toNat - 'a'.toNat + 10)
  else if 'A' ≤ c && c ≤ 'F' then some (c.toNat - 'A'.toNat + 10)
  else none

def hexValue? (digits : List Char) : Option Nat :=
  (digits.mapM hexDigit?).map (Text.ofDigits 16)

-- The character that a backslash and one letter stand for.
def escaped? : Char → Option Char
  | '"' => some '"'
  | '\\' => some '\\'
  | '/' => some '/'
  | 'b' => some '\x08'
  | 'f' => some '\x0c'
  | 'n' => some '\n'
  | 'r' => some '\r'
  | 't' => some '\t'
  | _ => none

-- The code units of a text up to its closing quote, and what follows the quote. A numeric escape
-- never reaches the end of the document, since the closing quote is still to come.
def scanUnits (opening : List Char) : List Char → Except Stop (List Nat × List Char)
  | [] => .error (.malformed .unterminatedText opening)
  | '"' :: rest => .ok ([], rest)
  | ['\\'] => .error (.malformed .unterminatedText opening)
  | '\\' :: 'u' :: rest =>
    match rest with
    | a :: b :: c :: d :: e :: more =>
      match hexValue? [a, b, c, d] with
      | none => .error (.malformed .badCodeUnit ('u' :: rest))
      | some unit => (scanUnits opening (e :: more)).map fun (units, rest) => (unit :: units, rest)
    | _ => .error (.malformed .badCodeUnit ('u' :: rest))
  | '\\' :: c :: rest =>
    match escaped? c with
    | none => .error (.malformed .badEscape ('\\' :: c :: rest))
    | some e => (scanUnits opening rest).map fun (units, rest) => (e.toNat :: units, rest)
  | c :: rest =>
    if c.toNat < 32 then .error (.malformed .controlCharacter (c :: rest))
    else (scanUnits opening rest).map fun (units, rest) => (c.toNat :: units, rest)

-- Two code units that form a surrogate pair are one character. Halves that stand alone remain.
def joinUnits : List Nat → Text
  | [] => []
  | [unit] => [.ofNat unit]
  | high :: low :: rest =>
    if 0xD800 ≤ high && high < 0xDC00 && 0xDC00 ≤ low && low < 0xE000 then
      .ofNat (0x10000 + (high - 0xD800) * 0x400 + (low - 0xDC00)) :: joinUnits rest
    else .ofNat high :: joinUnits (low :: rest)

-- Reads a text after its opening quote.
def scanText (rest : List Char) : Except Stop (Text × List Char) :=
  (scanUnits ('"' :: rest) rest).map fun (units, rest) => (joinUnits units, rest)

def isDigit (c : Char) : Bool :=
  '0' ≤ c && c ≤ '9'

def digitsOf (text : List Char) : List Nat :=
  text.map fun c => c.toNat - '0'.toNat

-- A point and the digits after it; without a digit the point is not part of the number.
def scanFraction (rest : List Char) : List Char × List Char :=
  match rest with
  | '.' :: tail =>
    let digits := tail.takeWhile isDigit
    if digits.isEmpty then ([], rest) else (digits, tail.dropWhile isDigit)
  | _ => ([], rest)

-- An exponent; without a digit its letter is not part of the number.
def scanExponent (rest : List Char) : Option (Bool × List Char) × List Char :=
  match rest with
  | c :: tail =>
    if c = 'e' || c = 'E' then
      let (negative, tail) :=
        match tail with
        | '-' :: tail => (true, tail)
        | '+' :: tail => (false, tail)
        | _ => (false, tail)
      let digits := tail.takeWhile isDigit
      if digits.isEmpty then (none, rest) else (some (negative, digits), tail.dropWhile isDigit)
    else (none, rest)
  | [] => (none, rest)

-- The double written as `whole.fraction` times a power of ten.
def doubleOf (negative : Bool) (whole fraction : List Char) (exponent : Option (Bool × List Char)) :
    Double :=
  let power : Int :=
    match exponent with
    | none => 0
    | some (below, digits) =>
      let size : Int := Text.ofDigits 10 (digitsOf digits)
      if below then -size else size
  Double.ofDecimal negative (Text.ofDigits 10 (digitsOf (whole ++ fraction)))
    (power - fraction.length)

-- A number without fraction and exponent is a whole number. A zero in front stands alone.
def scanNumber (text : List Char) : Except Stop (Value × List Char) :=
  let (negative, start) :=
    match text with
    | '-' :: rest => (true, rest)
    | _ => (false, text)
  let whole :=
    match start with
    | '0' :: _ => ['0']
    | _ => start.takeWhile isDigit
  if whole.isEmpty then .error (.malformed .noValue text)
  else
    let (fraction, rest) := scanFraction (start.drop whole.length)
    let (exponent, rest) := scanExponent rest
    if fraction.isEmpty && exponent.isNone then
      if Text.maxDigits < whole.length then .error .longNumber
      else
        let size : Int := Text.ofDigits 10 (digitsOf whole)
        .ok (.int (if negative then -size else size), rest)
    else .ok (.double (doubleOf negative whole fraction exponent), rest)

-- The fixed words, and the value each stands for.
def fixedWords : List (List Char × Value) :=
  [("null".toList, .null), ("true".toList, .bool true), ("false".toList, .bool false),
    ("NaN".toList, .double .nan), ("Infinity".toList, .double (.infinity false)),
    ("-Infinity".toList, .double (.infinity true))]

def scanWord (text : List Char) : Except Stop (Value × List Char) :=
  match fixedWords.find? fun (word, _) => word.isPrefixOf text with
  | some (word, v) => .ok (v, text.drop word.length)
  | none => scanNumber text

mutual

-- One value at the start of the text, and what follows it. At most `room` lists and tables may
-- stand one inside the other. The fuel bounds the number of steps.
def scanValue (room : Nat) : Nat → List Char → Except Stop (Value × List Char)
  | 0, text => .error (.malformed .noValue text)
  | fuel + 1, text =>
    match text with
    | '"' :: rest => (scanText rest).map fun (s, rest) => (.text s, rest)
    | '\x7b' :: rest =>
      if room = 0 then .error .tooDeep
      else
        match skipGap rest with
        | '\x7d' :: rest => .ok (.table [], rest)
        | rest =>
          (scanMembers (room - 1) fuel rest).map fun (members, rest) =>
            (.table (Dict.ofList members), rest)
    | '[' :: rest =>
      if room = 0 then .error .tooDeep
      else
        match skipGap rest with
        | ']' :: rest => .ok (.list [], rest)
        | rest => (scanItems (room - 1) fuel rest).map fun (items, rest) => (.list items, rest)
    | _ => scanWord text

-- The items of a list up to its closing bracket. There is at least one.
def scanItems (room : Nat) : Nat → List Char → Except Stop (List Value × List Char)
  | 0, text => .error (.malformed .noValue text)
  | fuel + 1, text => do
    let (item, rest) ← scanValue room fuel text
    match skipGap rest with
    | ']' :: rest => .ok ([item], rest)
    | ',' :: rest =>
      let (items, rest) ← scanItems room fuel (skipGap rest)
      .ok (item :: items, rest)
    | rest => .error (.malformed .noComma rest)

-- The members of a table up to its closing brace. There is at least one.
def scanMembers (room : Nat) : Nat → List Char → Except Stop (List (Text × Value) × List Char)
  | 0, text => .error (.malformed .noValue text)
  | fuel + 1, text =>
    match text with
    | '"' :: rest => do
      let (name, rest) ← scanText rest
      match skipGap rest with
      | ':' :: rest =>
        let (value, rest) ← scanValue room fuel (skipGap rest)
        match skipGap rest with
        | '\x7d' :: rest => .ok ([(name, value)], rest)
        | ',' :: rest =>
          let (members, rest) ← scanMembers room fuel (skipGap rest)
          .ok ((name, value) :: members, rest)
        | rest => .error (.malformed .noComma rest)
      | rest => .error (.malformed .noColon rest)
    | _ => .error (.malformed .noName text)

end

-- A document is one value with gaps around it.
def scanDocument (room : Nat) (text : List Char) : Except Stop Value :=
  match text with
  | '\ufeff' :: _ => .error (.malformed .byteOrderMark text)
  | _ => do
    let (value, rest) ← scanValue room (2 * text.length + 2) (skipGap text)
    match skipGap rest with
    | [] => .ok value
    | rest => .error (.malformed .extraData rest)

-- Reads a document with at most `room` lists and tables one inside the other.
def readWithin (room : Nat) (text : List Char) : Except Fault Value :=
  match scanDocument room text with
  | .ok value => .ok value
  | .error .longNumber => .error .longNumber
  | .error .tooDeep => .error .tooDeep
  | .error (.malformed mistake rest) =>
    .error (.malformed mistake (Text.locate (text.take (text.length - rest.length))))

-- No file is read in which more lists and tables stand one inside the other.
def maxDepth : Nat := 985

-- Reads a document.
def read (text : List Char) : Except Fault Value :=
  readWithin maxDepth text

end CommandCompletion.Json
