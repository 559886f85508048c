import CommandCompletion.Markup.Literal.Token
import CommandCompletion.Text.LineEnd

namespace CommandCompletion.Markup.Literal

-- What matters of a value where it stands: signs belong to numbers, only firm values can be names
-- in a table or members of a set, and the word for an empty set is no value by itself.
inductive Kind
  | real
  | signedReal
  | imaginary
  | firm
  | loose
  | setWord
deriving DecidableEq, Repr

def Kind.isFirm : Kind → Bool
  | loose => false
  | setWord => false
  | _ => true

def Kind.isValue (kind : Kind) : Bool :=
  kind ≠ setWord

def signed? : Kind → Option Kind
  | .real => some .signedReal
  | .imaginary => some .firm
  | _ => none

-- A real and an imaginary number make one number.
def sum? (left right : Kind) : Option Kind :=
  if (left = .real || left = .signedReal) && right = .imaginary then some .firm else none

def isSign (c : Char) : Bool :=
  c = '+' || c = '-'

-- Letters in the style of mathematics stand for those of the alphabet, as do some raised, lowered
-- and wide ones. Only the letters of the word below are of interest.
def otherLetters : List (Nat × Char) :=
  [(0x17f, 's'), (0x2e2, 's'), (0x209b, 's'), (0xff53, 's'), (0x1d49, 'e'), (0x2091, 'e'),
    (0x212f, 'e'), (0x2147, 'e'), (0xff45, 'e'), (0x1d57, 't'), (0x209c, 't'), (0xff54, 't')]

-- The alphabets in the styles of mathematics, large letters before small ones.
def firstMathLetter : Nat := 0x1d400

def lastMathLetter : Nat := 0x1d6a3

def plainLetter (c : Char) : Char :=
  let n := c.toNat
  if firstMathLetter ≤ n && n ≤ lastMathLetter then
    let index := (n - firstMathLetter) % 52
    if index < 26 then c else Char.ofNat ('a'.toNat + index - 26)
  else (otherLetters.lookup n).getD c

-- The word that stands for an empty set in front of parentheses.
def isSetWord (letters : List Char) : Bool :=
  String.ofList (letters.map plainLetter) = "set"

def isConstant (letters : List Char) : Bool :=
  ["True", "False", "None"].contains (String.ofList letters)

-- Values nested too deep are refused. Each bracket around a value takes it some steps deeper: so
-- many before the first comma, before the second one, and behind it.
structure Depths where
  first : Nat
  second : Nat
  later : Nat
deriving DecidableEq, Repr

namespace Depths

def top : Depths := ⟨0, 2, 2⟩

def tuple : Depths := ⟨28, 30, 31⟩

def set : Depths := ⟨29, 30, 30⟩

def call : Nat := 24

def quotation : Nat := 2

def sign : Nat := 1

-- So many steps can be taken.
def limit : Nat := 5975

def next (d : Depths) : Depths :=
  ⟨d.second, d.later, d.later⟩

end Depths

-- Quotations of one kind side by side are one.
def afterSame (token : Token) (rest : List Token) : List Token :=
  rest.dropWhile (· = token)

-- A series of values with commas between them, and the tokens after it.
structure Series where
  kinds : List Kind
  comma : Bool
  rest : List Token
deriving DecidableEq, Repr

-- A value in brackets is itself; more values, or one before a comma, are a tuple.
def Series.kind? (s : Series) : Option Kind :=
  match s.kinds, s.comma with
  | [kind], false => some kind
  | kinds, _ =>
    if !kinds.all Kind.isValue then none
    else if kinds.all Kind.isFirm then some .firm
    else some .loose

-- Parentheses behind the word for a set.
def call? (depth : Nat) (kind : Kind) (rest : List Token) : Option (Kind × List Token) :=
  match kind, rest with
  | .setWord, .mark '(' :: .mark ')' :: rest =>
    if depth + Depths.call ≤ Depths.limit then some (.loose, rest) else none
  | _, _ => some (kind, rest)

def endsSeries : List Token → Bool
  | [] => true
  | .lineEnd :: _ => true
  | .mark ')' :: _ => true
  | .mark '\x7d' :: _ => true
  | _ => false

mutual

-- A value without signs at the front of the tokens, and the tokens after it. It stands `depth`
-- steps deep. The first argument bounds how many values are read.
def plain? : Nat → Nat → List Token → Option (Kind × List Token)
  | 0, _, _ => none
  | _, _, [] => none
  | n + 1, depth, token :: rest => do
    let (kind, rest) ←
      match token with
      | .real => some (.real, rest)
      | .imaginary => some (.imaginary, rest)
      | .dots => some (.firm, rest)
      | .text | .bytes =>
        let after := afterSame token rest
        if Depths.limit < depth + Depths.quotation then none
        else if after.head? = some .text || after.head? = some .bytes then none
        else some (.firm, after)
      | .name letters =>
        if isConstant letters then some (.firm, rest)
        else if isSetWord letters then some (.setWord, rest)
        else none
      | .mark '(' =>
        let s ← series? n depth .tuple rest
        match s.rest with
        | .mark ')' :: rest => s.kind?.map (·, rest)
        | _ => none
      | .mark '\x7b' =>
        (members? n depth rest).map (.loose, ·)
      | _ => none
    call? depth kind rest

-- A value with at most one sign in front and at most one in the middle.
def value? : Nat → Nat → List Token → Option (Kind × List Token)
  | 0, _, _ => none
  | n + 1, depth, tokens => do
    if Depths.limit < depth then none
    let (kind, rest) ←
      match tokens with
      | .mark c :: others =>
        if isSign c then
          (plain? n (depth + Depths.sign) others).bind fun (kind, rest) =>
            (signed? kind).map (·, rest)
        else plain? n depth tokens
      | _ => plain? n depth tokens
    match rest with
    | .mark c :: others =>
      if isSign c then
        (plain? n depth others).bind fun (right, rest) => (sum? kind right).map (·, rest)
      else some (kind, rest)
    | _ => some (kind, rest)

-- Values up to the end of their series. The depth of a value that could follow counts too.
def series? : Nat → Nat → Depths → List Token → Option Series
  | 0, _, _, _ => none
  | n + 1, depth, depths, tokens =>
    if Depths.limit < depth + depths.first then none
    else if endsSeries tokens then some ⟨[], false, tokens⟩
    else do
      let (kind, rest) ← value? n (depth + depths.first) tokens
      match rest with
      | .mark ',' :: others =>
        let s ← series? n depth depths.next others
        return ⟨kind :: s.kinds, true, s.rest⟩
      | _ => return ⟨[kind], false, rest⟩

-- The members of a set or the pairs of a table, with the closing bracket.
def members? : Nat → Nat → List Token → Option (List Token)
  | 0, _, _ => none
  | n + 1, depth, tokens =>
    if Depths.limit < depth + Depths.set.first then none
    else
      match tokens with
      | .mark '\x7d' :: rest => some rest
      | _ => do
        let (first, rest) ← value? n (depth + Depths.set.first) tokens
        if !first.isFirm then none
        match rest with
        | .mark ':' :: _ => pairs? n depth .set rest
        | .mark '\x7d' :: rest => return rest
        | .mark ',' :: rest =>
          let s ← series? n depth Depths.set.next rest
          match s.rest with
          | .mark '\x7d' :: rest => if s.kinds.all Kind.isFirm then some rest else none
          | _ => none
        | _ => none

-- The pairs of a table from the colon of the first one on, with the closing bracket.
def pairs? : Nat → Nat → Depths → List Token → Option (List Token)
  | n + 1, depth, depths, .mark ':' :: tokens => do
    let (kind, rest) ← value? n (depth + depths.first) tokens
    if !kind.isValue then none
    match rest with
    | .mark '\x7d' :: rest => return rest
    | .mark ',' :: .mark '\x7d' :: rest =>
      if depth + depths.second ≤ Depths.limit then return rest else none
    | .mark ',' :: rest =>
      let (key, rest) ← value? n (depth + depths.second) rest
      if key.isFirm then pairs? n depth depths.next rest else none
    | _ => none
  | _, _, _, _ => none

end

-- Whether tokens are values in a line of their own.
def isLiteral (tokens : List Token) : Bool :=
  match series? (4 * tokens.length + 4) 0 .top tokens with
  | some s =>
    !s.kinds.isEmpty && s.kinds.all Kind.isValue && (s.rest.isEmpty || s.rest = [.lineEnd])
  | none => false

-- The tokens that are looked at: none behind an indented line that follows values.
def lookedAt (tokens : List Token) : List Token :=
  let before := tokens.takeWhile (· ≠ .indent)
  if before.isEmpty || isLiteral before then before else tokens

def warnings (tokens : List Token) : List Warning :=
  (lookedAt tokens).filterMap fun token =>
    match token with
    | .warning w => some w
    | _ => none

-- Nothing if a text is written-out values, and else what reading it warns of.
def mistake? (text : List Char) : Option (List Warning) :=
  if text.contains '\x00' then some []
  else
    let tokens := tokens (Text.unifyLineEnds text)
    if isLiteral tokens then none else some (warnings tokens)

-- A handler is named, and may be given values in parentheses; without a name only the values
-- stand there. Nothing if a text is a handler, and else what reading it warns of.
def handlerMistake? (text : List Char) : Option (List Warning) :=
  match text.dropWhile fun c : Char => Text.isWordPoint c || c = '.' with
  | [] => none
  | '(' :: rest =>
    mistake? (if rest.getLast? = some ')' && !rest.contains '\n' then '(' :: rest else text)
  | _ => mistake? text

end CommandCompletion.Markup.Literal
