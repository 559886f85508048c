import CommandCompletion.Text.Digit

namespace CommandCompletion.Markup.Literal

-- The forms of numbers, by what messages call them.
inductive NumberForm
  | decimal
  | hexadecimal
  | octal
  | binary
  | imaginary
deriving DecidableEq, Repr

def NumberForm.name : NumberForm → String
  | decimal => "decimal"
  | hexadecimal => "hexadecimal"
  | octal => "octal"
  | binary => "binary"
  | imaginary => "imaginary"

-- What is no ASCII character counts as a part of a name here.
def startsName (c : Char) : Bool :=
  c.isAlpha || c = '_' || 128 ≤ c.toNat

def continuesName (c : Char) : Bool :=
  startsName c || c.isDigit

-- The text after a run of digits with single underscores between them. None if there is no digit
-- or an underscore has no digit behind it.
def afterDigits? (isDigit : Char → Bool) : List Char → Option (List Char)
  | [] => none
  | c :: rest =>
    if !isDigit c then none
    else
      match rest with
      | '_' :: rest => afterDigits? isDigit rest
      | d :: others => if isDigit d then afterDigits? isDigit (d :: others) else some (d :: others)
      | [] => some []

def isBinary (c : Char) : Bool := c = '0' || c = '1'

def isOctal (c : Char) : Bool := '0' ≤ c && c ≤ '7'

def isHexadecimal (c : Char) : Bool :=
  c.isDigit || ('a' ≤ c && c ≤ 'f') || ('A' ≤ c && c ≤ 'F')

-- The form and the digits of numbers to other bases than ten, by the letter behind their zero.
def base? (letter : Char) : Option (NumberForm × (Char → Bool)) :=
  if letter = 'x' || letter = 'X' then some (.hexadecimal, isHexadecimal)
  else if letter = 'o' || letter = 'O' then some (.octal, isOctal)
  else if letter = 'b' || letter = 'B' then some (.binary, isBinary)
  else none

-- The text after the digits behind the letter of a base. A larger digit may not follow them.
def afterBased? (isDigit : Char → Bool) (text : List Char) : Option (List Char) :=
  let digits :=
    match text with
    | '_' :: rest => rest
    | _ => text
  (afterDigits? isDigit digits).filter fun rest => !rest.head?.any Char.isDigit

-- The text after a fraction; digits may be missing behind the point.
def afterPoint? (text : List Char) : Option (List Char) :=
  if text.head?.any Char.isDigit then afterDigits? Char.isDigit text else some text

-- The text after an exponent if one stands there, and whether it does. Without a sign it may turn
-- out that a letter belongs to a word instead.
def afterExponent? (text : List Char) : Option (Bool × List Char) :=
  match text with
  | c :: rest =>
    if c = 'e' || c = 'E' then
      match rest with
      | '+' :: digits | '-' :: digits => (afterDigits? Char.isDigit digits).map (true, ·)
      | _ =>
        if rest.head?.any Char.isDigit then (afterDigits? Char.isDigit rest).map (true, ·)
        else some (false, text)
    else some (false, text)
  | [] => some (false, text)

-- The digits of a whole number, without the underscores between them.
def wholeDigits (text rest : List Char) : List Char :=
  (text.take (text.length - rest.length)).filter (· ≠ '_')

-- Whether a whole number stands behind zeros, which only zero may do. It does not count where a
-- letter follows that could have begun an exponent.
def isPadded (digits rest : List Char) : Bool :=
  digits.head? = some '0' && digits.any (· ≠ '0') &&
    !(rest.head? = some 'e' || rest.head? = some 'E')

-- A number, the text after it, and whether it has too many digits to be a value.
structure Number where
  form : NumberForm
  rest : List Char
  tooLong : Bool := false
deriving DecidableEq, Repr

-- A number to the base of ten.
def decimal? (text : List Char) : Option Number := do
  let whole ← if text.head? = some '.' then some text else afterDigits? Char.isDigit text
  let digits := wholeDigits text whole
  let (hasPoint, rest) ←
    match whole with
    | '.' :: rest => (afterPoint? rest).map (true, ·)
    | _ => some (false, whole)
  let (hasExponent, rest) ← afterExponent? rest
  match rest with
  | 'j' :: rest | 'J' :: rest => return ⟨.imaginary, rest, false⟩
  | _ =>
    if hasPoint || hasExponent then return ⟨.decimal, rest, false⟩
    else if isPadded digits rest then none
    else
      return ⟨.decimal, rest, digits.any (· ≠ '0') && decide (Text.maxDigits < digits.length)⟩

-- The number at the front of a text.
def number? (text : List Char) : Option Number :=
  match text with
  | '0' :: letter :: digits =>
    match base? letter with
    | some (form, isDigit) => (afterBased? isDigit digits).map fun rest => ⟨form, rest, false⟩
    | none => decimal? text
  | _ => decimal? text

-- Whether one of the words that can follow a value stands at the front of a text. Of the short
-- ones the first two letters tell.
def startsWithWord (text : List Char) : Bool :=
  ["if", "in", "is"].any (fun word => word.toList.isPrefixOf text) ||
    ["and", "else", "for", "or", "not"].any fun word =>
      word.toList.isPrefixOf text && !(text.drop word.length).head?.any continuesName

end CommandCompletion.Markup.Literal
