import CommandCompletion.Markup.Literal.Quotation
import CommandCompletion.Text.Word

namespace CommandCompletion.Markup.Literal

-- A number that a word follows at once, and the line of it.
structure Warning where
  form : NumberForm
  line : Nat
deriving DecidableEq, Repr

def Warning.text (w : Warning) : Text :=
  "<unknown>:" ++ toString w.line ++ ": SyntaxWarning: invalid " ++ w.form.name ++ " literal"

-- The values that can be handed to a handler are written out: numbers, texts, bytes, truth values,
-- tuples, sets and tables. A warning stands before its number, `other` for what is part of no
-- value, and `fault` for what cannot be read at all.
inductive Token
  | real
  | imaginary
  | text
  | bytes
  | name (letters : List Char)
  | dots
  | mark (c : Char)
  | lineEnd
  | indent
  | warning (warning : Warning)
  | other
  | fault
deriving DecidableEq, Repr

-- How far a line is indented: in columns, of which a tab leads to the next multiple of eight, and
-- in characters.
structure Margin where
  columns : Nat := 0
  characters : Nat := 0
deriving DecidableEq, Repr

-- Where reading stands: the line, the brackets that are open, the last first, the margins of the
-- lines around, the widest first, and whether a line begins here.
structure Place where
  line : Nat := 1
  brackets : List Char := []
  margins : List Margin := [{}]
  fresh : Bool := true
deriving DecidableEq, Repr

-- The margin at the front of a line, the number of the line on which it ends, and the text after
-- it. Where a backslash continues the line, the columns before the first one count.
def margin? (m : Margin) (kept line : Nat) : List Char → Option (Margin × Nat × List Char)
  | ' ' :: rest => margin? ⟨m.columns + 1, m.characters + 1⟩ kept line rest
  | '\t' :: rest => margin? ⟨(m.columns / 8 + 1) * 8, m.characters + 1⟩ kept line rest
  | '\x0c' :: rest => margin? {} kept line rest
  | '\\' :: rest =>
    match rest with
    | '\n' :: c :: more =>
      margin? m (if kept = 0 then m.columns else kept) (line + 1) (c :: more)
    | _ => none
  | rest => some (if kept = 0 then m else ⟨kept, kept⟩, line, rest)

-- Lines without tokens have no say in how lines are indented.
def isIdle (text : List Char) : Bool :=
  text.head? = some '#' || text.head? = some '\n'

-- No line stands inside more margins than this.
def maxMargins : Nat := 100

-- The margins at a line with one of its own, and whether it is a new one. Columns and characters
-- have to agree about the order of margins.
def settle? (m : Margin) : List Margin → Option (Bool × List Margin)
  | [] => none
  | top :: others =>
    if m.columns = top.columns then
      if m.characters = top.characters then some (false, top :: others) else none
    else if top.columns < m.columns then
      if others.length + 2 ≤ maxMargins && top.characters < m.characters then
        some (true, m :: top :: others)
      else none
    else
      match others.dropWhile (m.columns < ·.columns) with
      | next :: others => if m = next then some (false, next :: others) else none
      | [] => none

-- No more brackets than this are open at once.
def maxBrackets : Nat := 200

def closes (opening closing : Char) : Bool :=
  (opening = '(' && closing = ')') || (opening = '[' && closing = ']') ||
    (opening = '\x7b' && closing = '\x7d')

-- The brackets that are open behind a character.
def turnBrackets (opened : List Char) (c : Char) : Option (List Char) :=
  if c = '(' || c = '[' || c = '\x7b' then
    if opened.length < maxBrackets then some (c :: opened) else none
  else if c = ')' || c = ']' || c = '\x7d' then
    match opened with
    | last :: others => if closes last c then some others else none
    | [] => none
  else some opened

-- The token of a character that stands for itself. Only a few have a place in values.
def markToken (c : Char) : Token :=
  if "(){},:+-".toList.contains c then .mark c else .other

def isName (letters : List Char) : Bool :=
  letters.all (·.toNat < 128) ||
    (letters.head?.any (Text.startsName ·) && letters.all (Text.continuesName ·))

def isSpace (c : Char) : Bool :=
  c = ' ' || c = '\t' || c = '\x0c'

def isControl (c : Char) : Bool :=
  c.toNat < 32 || c.toNat = 127

-- Tokens at the front of a text, and the text after them.
abbrev Lexeme := List Token × List Char

-- A quotation behind its letters.
def quotation (kind : QuotationKind) (text : List Char) : Lexeme :=
  let (marks, inside) := openQuotation text
  match quoted? marks inside with
  | none => ([.fault], [])
  | some (inside, rest) =>
    ([if !kind.admits inside then .other else if kind.bytes then .bytes else .text], rest)

-- A name, or the letters of a quotation with it.
def word (text : List Char) : Lexeme :=
  let letters := text.takeWhile continuesName
  let rest := text.dropWhile continuesName
  match QuotationKind.ofLetters? letters, rest.head?.any isQuotationMark with
  | some kind, true => quotation kind rest
  | _, _ => if isName letters then ([.name letters], rest) else ([.fault], [])

-- A number. A word may follow it at once, but no other ASCII letter, digit or underscore.
def number (line : Nat) (text : List Char) : Lexeme :=
  match number? text with
  | none => ([.fault], [])
  | some n =>
    let token :=
      if n.tooLong then Token.other else if n.form = .imaginary then .imaginary else .real
    if startsWithWord n.rest then ([.warning ⟨n.form, line⟩, token], n.rest)
    else if n.rest.head?.any fun c => c.isAlphanum || c = '_' then ([.fault], [])
    else ([token], n.rest)

-- The token at the front of a text that begins with a character other than white space, a bracket
-- or a backslash.
def lexeme (line : Nat) (c : Char) (rest : List Char) : Lexeme :=
  if isQuotationMark c then quotation ⟨false, false, false⟩ (c :: rest)
  else if startsName c then word (c :: rest)
  else if c.isDigit || (c = '.' && rest.head?.any Char.isDigit) then number line (c :: rest)
  else if c = '.' && rest.take 2 = ['.', '.'] then ([.dots], rest.drop 2)
  else if isControl c then ([.fault], [])
  else ([markToken c], rest)

def lineEnds (text : List Char) : Nat :=
  text.count '\n'

-- The tokens of the text from a place on. The first argument bounds how many steps are taken.
def tokensFrom : Nat → Place → List Char → List Token
  | 0, _, _ => []
  | n + 1, p, text =>
    if p.fresh then
      match margin? {} 0 p.line text with
      | none => [.fault]
      | some (margin, line, rest) =>
        if isIdle rest then
          match rest.dropWhile (· ≠ '\n') with
          | [] => if p.brackets.isEmpty then [] else [.fault]
          | _ :: rest => tokensFrom n { p with line := line + 1 } rest
        else if p.brackets.isEmpty then
          match settle? margin p.margins with
          | none => [.fault]
          | some (isNew, margins) =>
            (if isNew then [.indent] else []) ++
              tokensFrom n { p with line, margins, fresh := false } rest
        else tokensFrom n { p with line, fresh := false } rest
    else
      match text with
      | [] => if p.brackets.isEmpty then [] else [.fault]
      | c :: rest =>
        if isSpace c then tokensFrom n p rest
        else if c = '#' then tokensFrom n p (rest.dropWhile (· ≠ '\n'))
        else if c = '\n' then
          (if p.brackets.isEmpty then [.lineEnd] else []) ++
            tokensFrom n { p with line := p.line + 1, fresh := true } rest
        else if c = '\\' then
          match rest with
          | '\n' :: d :: more => tokensFrom n { p with line := p.line + 1 } (d :: more)
          | _ => [.fault]
        else
          match turnBrackets p.brackets c with
          | none => [.fault]
          | some brackets =>
            let (tokens, after) := lexeme p.line c rest
            if tokens = [.fault] then [.fault]
            else
              let line := p.line + (lineEnds rest - lineEnds after)
              tokens ++ tokensFrom n { p with line, brackets } after

-- The tokens of a text whose lines end with line feeds.
def tokens (text : List Char) : List Token :=
  tokensFrom (2 * text.length + 2) {} text

end CommandCompletion.Markup.Literal
