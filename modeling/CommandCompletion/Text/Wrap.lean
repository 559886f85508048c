import CommandCompletion.Text.Blank
import CommandCompletion.Text.Cluster

namespace CommandCompletion.Text

def splitLines (text : Text) : List Text :=
  match text with
  | [] => [[]]
  | c :: rest =>
    match splitLines rest with
    | first :: others => if c = '\n' then [] :: first :: others else (c :: first) :: others
    | [] => [[c]]

-- Pieces of a text that end behind each tab.
def tabPieces : Text → List Text
  | [] => []
  | c :: rest =>
    if c = '\t' then [c] :: tabPieces rest
    else
      match tabPieces rest with
      | piece :: others => (c :: piece) :: others
      | [] => [[c]]

-- The words of a line, each with the white space behind it, and the first also with that before
-- it. A line of white space has none.
def spacedWords : Text → List Text
  | [] => []
  | c :: rest =>
    match spacedWords rest with
    | [] => if isBlank c then [] else [c :: rest]
    | word :: others =>
      if isBlank c || !word.head?.any isBlank then (c :: word) :: others
      else (c :: word.takeWhile isBlank) :: word.dropWhile isBlank :: others

-- What is done with a word that is longer than a line: it goes on in the next one, or its end is
-- left out.
inductive Overflow
  | fold
  | ellipsis
deriving DecidableEq, Repr

-- Lines in the making: the pieces of the finished ones and of the current one, the last first,
-- and how many cells the current one has.
structure Wrapping where
  finished : List (List Text) := []
  current : List Text := []
  taken : Nat := 0
deriving DecidableEq, Repr

namespace Wrapping

def isStarted (w : Wrapping) : Bool :=
  !w.finished.isEmpty || w.current.any (!·.isEmpty)

-- Nothing but text ends a line.
def breakLine (w : Wrapping) : Wrapping :=
  if w.isStarted then { finished := w.current :: w.finished } else w

def add (w : Wrapping) (piece : Text) : Wrapping :=
  { w with current := piece :: w.current, taken := w.taken + width piece }

-- Adds a word to the current line if it fits there, and to the next one if not.
def place (overflow : Overflow) (limit : Nat) (w : Wrapping) (word : Text) : Wrapping :=
  let size := width (trimEnd word)
  if w.taken + size ≤ limit then w.add word
  else if size ≤ limit then w.breakLine.add word
  else
    match overflow with
    | .fold => (chop limit word).foldl (fun w piece => w.breakLine.add piece) w
    | .ellipsis => w.breakLine.add word

def lines (w : Wrapping) : List Text :=
  (w.current :: w.finished).reverse.map fun pieces => pieces.reverse.flatten

end Wrapping

-- The pieces of a line that stand on lines of their own on a page of `limit` cells. A line of
-- white space is one piece.
def wrap (overflow : Overflow) (limit : Nat) (line : Text) : List Text :=
  match spacedWords line with
  | [] => [line]
  | words => (words.foldl (Wrapping.place overflow limit) {}).lines

-- White space beyond the end of a line is left out.
def trimBeyond (limit : Nat) (line : Text) : Text :=
  let blanks := (line.reverse.takeWhile isBlank).length
  line.take (line.length - min blanks (line.length - limit))

def truncate (overflow : Overflow) (limit : Nat) (line : Text) : Text :=
  if width line ≤ limit then line
  else
    match overflow with
    | .fold => takeCells limit line
    | .ellipsis => takeCells (limit - 1) line ++ "…"

-- Characters that end lines where lines are measured.
def endsLine (c : CodePoint) : Bool :=
  let n := c.toNat
  n = 10 || (0x1c ≤ n && n ≤ 0x1e) || n = 0x85 || n = 0x2028 || n = 0x2029

-- The cells of the longest line of a text. Tabs are not counted.
def measure (text : Text) : Nat :=
  ((splitLines (text.map fun c => if endsLine c then '\n' else c)).map width).foldl max 0

end CommandCompletion.Text
