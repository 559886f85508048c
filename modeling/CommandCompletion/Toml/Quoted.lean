import CommandCompletion.Json.Reader
import CommandCompletion.Toml.Fault

namespace CommandCompletion.Toml

open Json (hexValue?)

def isSpace (c : Char) : Bool := c = ' ' || c = '\t'

def isSpaceOrLine (c : Char) : Bool := isSpace c || c = '\n'

def skipSpaces (text : List Char) : List Char := text.dropWhile isSpace

-- ASCII controls may not stand in texts and comments. A tab may, and in texts of several lines a
-- line feed.
def isIllegal (lines : Bool) (c : Char) : Bool :=
  (c.toNat < 32 || c.toNat = 127) && c ≠ '\t' && !(lines && c = '\n')

def isScalar (n : Nat) : Bool :=
  n < 0xD800 || (0xE000 ≤ n && n < 0x110000)

-- The character that a backslash and one letter stand for.
def escaped? : Char → Option Char
  | 'b' => some '\x08'
  | 't' => some '\t'
  | 'n' => some '\n'
  | 'f' => some '\x0c'
  | 'r' => some '\r'
  | '"' => some '"'
  | '\\' => some '\\'
  | _ => none

-- What a backslash at the end of a line lets the reader skip: blanks up to the line's end, then
-- blanks and empty lines.
inductive Skip
  | nothing
  | line
  | lines
deriving DecidableEq, Repr

-- The character of a numeric escape with the given digits, which `after` follows.
def scalar (digits after : List Char) : Except Stop Char :=
  match hexValue? digits with
  | none => .error (.malformed .badHex (digits ++ after))
  | some n => if isScalar n then .ok (Char.ofNat n) else .error (.malformed .notScalar after)

def push (c : Char) (read : Except Stop (List Char × List Char)) :
    Except Stop (List Char × List Char) :=
  read.map fun (text, rest) => (c :: text, rest)

-- A text in double quotes up to its closing quote, and what follows the quote. A text of several
-- lines ends with three quotes.
def scanBasic (lines : Bool) : Skip → List Char → Except Stop (List Char × List Char)
  | _, [] => .error (.malformed .unterminated [])
  | skip, c :: rest =>
    if skip = .line && isSpace c then scanBasic lines .line rest
    else if skip = .line && c = '\n' then scanBasic lines .lines rest
    else if skip = .line then .error (.malformed .badEscape (c :: rest))
    else if skip = .lines && isSpaceOrLine c then scanBasic lines .lines rest
    else if c = '"' then
      if lines then
        match rest with
        | '"' :: '"' :: rest => .ok ([], rest)
        | _ => push '"' (scanBasic lines .nothing rest)
      else .ok ([], rest)
    else if c = '\\' then
      match rest with
      | [] => .error (.malformed .badEscape [])
      | 'u' :: a :: b :: c :: d :: rest => do
        push (← scalar [a, b, c, d] rest) (scanBasic lines .nothing rest)
      | 'U' :: a :: b :: c :: d :: e :: f :: g :: h :: rest => do
        push (← scalar [a, b, c, d, e, f, g, h] rest) (scanBasic lines .nothing rest)
      | e :: rest =>
        if e = 'u' || e = 'U' then .error (.malformed .badHex rest)
        else if lines && isSpace e then scanBasic lines .line rest
        else if lines && e = '\n' then scanBasic lines .lines rest
        else
          match escaped? e with
          | none => .error (.malformed .badEscape rest)
          | some e => push e (scanBasic lines .nothing rest)
    else if isIllegal lines c then .error (.malformed (.illegalCharacter c) (c :: rest))
    else push c (scanBasic lines .nothing rest)

-- The text before the first occurrence of `closing`, and what stands from there on.
def splitAt? (closing : List Char) : List Char → Option (List Char × List Char)
  | [] => if closing = [] then some ([], []) else none
  | c :: rest =>
    if closing.isPrefixOf (c :: rest) then some ([], c :: rest)
    else (splitAt? closing rest).map fun (before, after) => (c :: before, after)

-- The place of the first illegal character of `before`, which `after` follows.
def refuseIllegal (lines : Bool) : List Char → List Char → Except Stop Unit
  | [], _ => .ok ()
  | c :: before, after =>
    if isIllegal lines c then .error (.malformed (.invalidCharacter c) (c :: before ++ after))
    else refuseIllegal lines before after

-- A text in apostrophes is taken as it stands.
def scanLiteral (lines : Bool) (closing : List Char) (text : List Char) :
    Except Stop (List Char × List Char) :=
  match splitAt? closing text with
  | none => .error (.malformed (.expected (String.ofList closing)) [])
  | some (before, after) => do
    refuseIllegal lines before after
    return (before, after.drop closing.length)

-- Up to two quotes right behind the closing ones belong to the text.
def extraQuotes (mark : Char) (text rest : List Char) : List Char × List Char :=
  match rest with
  | a :: b :: after =>
    if a = mark && b = mark then (text ++ [mark, mark], after)
    else if a = mark then (text ++ [mark], b :: after)
    else (text, rest)
  | [a] => if a = mark then (text ++ [mark], []) else (text, rest)
  | [] => (text, rest)

-- A line feed right behind the opening quotes is not part of the text.
def dropLineFeed : List Char → List Char
  | '\n' :: rest => rest
  | rest => rest

-- The end of the line that a comment runs to.
def skipComment (text : List Char) : Except Stop (List Char) :=
  match text with
  | '#' :: rest => do
    let comment := rest.takeWhile (· != '\n')
    let after := rest.dropWhile (· != '\n')
    refuseIllegal false comment after
    return after
  | _ => .ok text

def isBareKeyChar (c : Char) : Bool :=
  ('a' ≤ c && c ≤ 'z') || ('A' ≤ c && c ≤ 'Z') || ('0' ≤ c && c ≤ '9') || c = '-' || c = '_'

def scanKeyPart (text : List Char) : Except Stop (Text × List Char) :=
  match text with
  | '\'' :: rest => (scanLiteral false ['\''] rest).map fun (s, rest) => (.ofChars s, rest)
  | '"' :: rest => (scanBasic false .nothing rest).map fun (s, rest) => (.ofChars s, rest)
  | c :: _ =>
    if isBareKeyChar c then
      .ok (.ofChars (text.takeWhile isBareKeyChar), text.dropWhile isBareKeyChar)
    else .error (.malformed .noKey text)
  | [] => .error (.malformed .noKey [])

-- The parts of a dotted key, with the blanks behind it. Each part has a character of its own, so
-- the text bounds their number.
def scanKeyParts : Nat → List Char → Except Stop (List Text × List Char)
  | 0, text => .error (.malformed .noKey text)
  | fuel + 1, text => do
    let (part, rest) ← scanKeyPart text
    match skipSpaces rest with
    | '.' :: rest =>
      let (parts, rest) ← scanKeyParts fuel (skipSpaces rest)
      return (part :: parts, rest)
    | rest => return ([part], rest)

def scanKey (text : List Char) : Except Stop (List Text × List Char) :=
  scanKeyParts (text.length + 1) text

end CommandCompletion.Toml
