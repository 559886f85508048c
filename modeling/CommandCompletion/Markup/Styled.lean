import CommandCompletion.Text.Wrap

namespace CommandCompletion.Markup

-- A run of code points, by the offset of its first one and the one behind its last.
structure Run where
  first : Nat
  last : Nat
deriving DecidableEq, Repr

-- Text as it is shown, and the runs in it whose style cannot be shown. A run may hold nothing.
structure Styled where
  text : Text
  faulty : List Run := []
deriving DecidableEq, Repr

-- What of a run lies between two offsets, counted from the first, if anything does.
def Run.between (start stop : Nat) (run : Run) : Option Run :=
  let first := max run.first start
  let last := min run.last stop
  if first < last then some ⟨first - start, last - start⟩ else none

namespace Styled

-- A piece of the text that starts at an offset. Runs that hold nothing of it are lost.
def part (s : Styled) (start : Nat) (piece : Text) : Styled where
  text := piece
  faulty := s.faulty.filterMap (Run.between start (start + piece.length))

-- Pieces of the text from an offset on, with gaps of one width between them.
def parts (s : Styled) (gap start : Nat) : List Text → List Styled
  | [] => []
  | piece :: rest => s.part start piece :: s.parts gap (start + piece.length + gap) rest

-- Pieces that make up the text, gaps apart. A single one keeps the runs that hold nothing.
def divide (s : Styled) (gap : Nat) (pieces : List Text) : List Styled :=
  if pieces.length ≤ 1 then [s] else s.parts gap 0 pieces

-- The same styles on a text that takes the place of the old one. If it is shorter, runs behind it
-- are lost.
def withText (s : Styled) (text : Text) : Styled where
  text := text
  faulty :=
    if text.length < s.text.length then
      (s.faulty.filter (·.first < text.length)).map fun run =>
        { run with last := min run.last text.length }
    else s.faulty

instance : Append Styled where
  append s t :=
    { text := s.text ++ t.text,
      faulty := s.faulty ++
        t.faulty.map fun run => ⟨s.text.length + run.first, s.text.length + run.last⟩ }

-- Spaces behind the text. They belong to the runs that end there.
def pad (s : Styled) (spaces : Nat) : Styled where
  text := s.text ++ List.replicate spaces (.char ' ')
  faulty := s.faulty.map fun run =>
    if s.text.length ≤ run.last then { run with last := run.last + spaces } else run

-- A tab leads to the next cell whose number is a multiple of this one.
def tabStop : Nat := 8

-- Replaces the tab at the end of a piece by spaces up to the next stop; `column` cells of the line
-- are taken already.
def expandTab (column : Nat) (s : Styled) : Styled :=
  match s.text.getLast? with
  | some (.char '\t') =>
    let spaced := s.withText (s.text.dropLast ++ " ")
    let beyond := (column + Text.width spaced.text) % tabStop
    spaced.pad (if beyond = 0 then 0 else tabStop - beyond)
  | _ => s

-- A line of pieces without their tabs, behind `column` cells.
def expandPieces (column : Nat) : List Styled → Styled
  | [] => { text := [] }
  | piece :: rest =>
    let expanded := piece.expandTab column
    expanded ++ expandPieces (column + Text.width expanded.text) rest

-- Replaces the tabs of a line.
def expandTabs (s : Styled) : Styled :=
  if s.text.contains '\t' then expandPieces 0 (s.parts 0 0 (Text.tabPieces s.text)) else s

-- The lines of a text, whose tabs are spaces.
def lines (s : Styled) : List Styled :=
  (s.divide 1 (Text.splitLines s.text)).map (·.expandTabs)

-- Whether the lines of a text stand at the left or in the middle.
inductive Alignment
  | left
  | middle
deriving DecidableEq, Repr

-- The lines of a text on a page of `limit` cells. White space at the ends of lines in the middle
-- does not count.
def layOut (overflow : Text.Overflow) (alignment : Alignment) (limit : Nat) (s : Styled) :
    List Styled :=
  s.lines.flatMap fun line =>
    (line.divide 0 (Text.wrap overflow limit line.text)).map fun line =>
      let line := line.withText (Text.trimBeyond limit line.text)
      let line := if alignment = .middle then line.withText (Text.trimEnd line.text) else line
      line.withText (Text.truncate overflow limit line.text)

end Styled

end CommandCompletion.Markup
