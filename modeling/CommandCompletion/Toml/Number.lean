import CommandCompletion.Data.Value
import CommandCompletion.Json.Reader
import CommandCompletion.Toml.Fault

namespace CommandCompletion.Toml

open Json (isDigit digitsOf hexDigit?)

-- Digits with single underscores between them, as many as there are, and what follows.
def scanDigits (digit : Char → Bool) : List Char → List Char × List Char
  | [] => ([], [])
  | [c] => if digit c then ([c], []) else ([], [c])
  | c :: d :: rest =>
    if digit c then
      if d = '_' then
        match rest with
        | e :: _ =>
          if digit e then
            let (digits, rest) := scanDigits digit rest
            (c :: digits, rest)
          else ([c], d :: rest)
        | [] => ([c], [d])
      else
        let (digits, rest) := scanDigits digit (d :: rest)
        (c :: digits, rest)
    else ([], c :: d :: rest)

def digitIn (base : Nat) (c : Char) : Bool :=
  match hexDigit? c with
  | none => false
  | some d => d < base

-- A whole number to base 16, 8 or 2. It has no sign.
def scanBased (base : Nat) (text : List Char) : Option (Value × List Char) :=
  match scanDigits (digitIn base) text with
  | ([], _) => none
  | (digits, rest) =>
    some (.int (Text.ofDigits base (digits.map fun c => (hexDigit? c).getD 0)), rest)

def scanPrefixed (text : List Char) : Option (Value × List Char) :=
  match text with
  | '0' :: 'x' :: rest => scanBased 16 rest
  | '0' :: 'o' :: rest => scanBased 8 rest
  | '0' :: 'b' :: rest => scanBased 2 rest
  | _ => none

def scanSign (text : List Char) : Bool × List Char :=
  match text with
  | '-' :: rest => (true, rest)
  | '+' :: rest => (false, rest)
  | _ => (false, text)

-- A zero in front stands alone.
def scanWhole (text : List Char) : List Char × List Char :=
  match text with
  | '0' :: rest => (['0'], rest)
  | _ => scanDigits isDigit text

def scanFraction (text : List Char) : List Char × List Char :=
  match text with
  | '.' :: rest =>
    match scanDigits isDigit rest with
    | ([], _) => ([], text)
    | found => found
  | _ => ([], text)

def scanExponent (text : List Char) : Option (Bool × List Char) × List Char :=
  match text with
  | c :: rest =>
    if c = 'e' || c = 'E' then
      let (negative, digits) := scanSign rest
      match scanDigits isDigit digits with
      | ([], _) => (none, text)
      | (digits, rest) => (some (negative, digits), rest)
    else (none, text)
  | [] => (none, text)

def scanDecimal (text : List Char) : Option (Except Stop (Value × List Char)) :=
  let (negative, start) := scanSign text
  match scanWhole start with
  | ([], _) => none
  | (whole, rest) =>
    let (fraction, rest) := scanFraction rest
    let (exponent, rest) := scanExponent rest
    if fraction.isEmpty && exponent.isNone then
      if Text.maxDigits < whole.length then some (.error .longNumber)
      else
        let size : Int := Text.ofDigits 10 (digitsOf whole)
        some (.ok (.int (if negative then -size else size), rest))
    else some (.ok (.double (Json.doubleOf negative whole fraction exponent), rest))

def scanSpecial (text : List Char) : Option (Value × List Char) :=
  let (negative, rest) := scanSign text
  if "inf".toList.isPrefixOf rest then some (.double (.infinity negative), rest.drop 3)
  else if "nan".toList.isPrefixOf rest then some (.double .nan, rest.drop 3)
  else none

-- A number at the start of a text, if there is one.
def scanNumber? (text : List Char) : Option (Except Stop (Value × List Char)) :=
  match scanPrefixed text with
  | some found => some (.ok found)
  | none =>
    match scanDecimal text with
    | some found => some found
    | none => (scanSpecial text).map .ok

end CommandCompletion.Toml
