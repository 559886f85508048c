import CommandCompletion.Markup.Literal.Number

namespace CommandCompletion.Markup.Literal

-- What is known of a quotation by the letters in front of it: whether it holds bytes, whether a
-- backslash is a character like others, and whether values are put into it.
structure QuotationKind where
  bytes : Bool
  raw : Bool
  filled : Bool
deriving DecidableEq, Repr

-- The kind of a quotation. The letters may be large or small.
def QuotationKind.ofLetters? (letters : List Char) : Option QuotationKind :=
  let small := String.ofList (letters.map Char.toLower)
  if ["", "r", "u", "b", "br", "rb", "f", "fr", "rf"].contains small then
    some ⟨small.contains 'b', small.contains 'r', small.contains 'f'⟩
  else none

def isQuotationMark (c : Char) : Bool :=
  c = '"' || c = '\''

-- The marks that end a quotation, and the text after those that start it.
def openQuotation : List Char → List Char × List Char
  | a :: b :: c :: rest =>
    if a = b && b = c then ([a, a, a], rest) else ([a], b :: c :: rest)
  | a :: rest => ([a], rest)
  | [] => ([], [])

-- What stands in a quotation up to its marks, and the text after them. A line ends a quotation of
-- single marks, unless a backslash stands before its end.
def quoted? (marks : List Char) (text : List Char) : Option (List Char × List Char) :=
  match text with
  | [] => none
  | '\\' :: c :: rest =>
    (quoted? marks rest).map fun (inside, after) => ('\\' :: c :: inside, after)
  | c :: rest =>
    if marks.isPrefixOf text then some ([], text.drop marks.length)
    else if c = '\n' && marks.length = 1 then none
    else (quoted? marks rest).map fun (inside, after) => (c :: inside, after)

-- How many hexadecimal digits an escape needs. Bytes know the first one only.
def escapeWidth? (inBytes : Bool) (c : Char) : Option Nat :=
  if c = 'x' then some 2
  else if inBytes then none
  else if c = 'u' then some 4
  else if c = 'U' then some 8
  else none

-- Whether eight digits are the number of a code point.
def isPointNumber (digits : List Char) : Bool :=
  "000".toList.isPrefixOf digits || "0010".toList.isPrefixOf digits

-- A character after a backslash, and the text after it. Characters are not known by their names.
def isEscape (inBytes : Bool) (c : Char) (rest : List Char) : Bool :=
  if c = 'N' && !inBytes then false
  else
    match escapeWidth? inBytes c with
    | none => true
    | some n =>
      let digits := rest.take n
      digits.length = n && digits.all isHexadecimal && (n ≠ 8 || isPointNumber digits)

def hasEscapes (inBytes : Bool) : List Char → Bool
  | '\\' :: c :: rest => isEscape inBytes c rest && hasEscapes inBytes rest
  | _ :: rest => hasEscapes inBytes rest
  | [] => true

-- Whether a quotation is a value. Bytes are ASCII characters.
def QuotationKind.admits (kind : QuotationKind) (inside : List Char) : Bool :=
  !kind.filled && (!kind.bytes || inside.all (·.toNat < 128)) &&
    (kind.raw || hasEscapes kind.bytes inside)

end CommandCompletion.Markup.Literal
