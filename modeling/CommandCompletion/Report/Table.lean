import CommandCompletion.Report.Basic

namespace CommandCompletion

-- A table of marked-up cells. A row may be shorter or longer than the headers. A table without a
-- frame shows no headers. The columns may have styles.
structure Table where
  title : Text := []
  headers : List Text := []
  rows : List (List Text) := []
  styles : List Text := []
  framed : Bool := true
deriving DecidableEq, Repr

namespace Table

def columns (t : Table) : Nat :=
  (t.rows.map List.length).foldl max t.headers.length

-- The cells between the text of a column and each of its sides.
def margin (t : Table) : Nat :=
  if t.framed then 1 else 2

def padding (t : Table) : Nat :=
  2 * t.margin

-- The cells of the frame on a line.
def border (t : Table) : Nat :=
  if t.framed then t.columns + 1 else 0

-- The cells of the page that are left for columns.
def limit (t : Table) : Nat :=
  Report.pageWidth - t.border

-- Whether there is room for text in a column.
def isRoomy (t : Table) : Bool :=
  t.padding < t.limit

-- The headers and the rows, as far as they are shown.
def lines (t : Table) : List (List Text) :=
  (if t.framed then [t.headers] else []) ++ t.rows

def cell (cells : List Text) (i : Nat) : Text :=
  (cells[i]?).getD []

def checkStyle (t : Table) (i : Nat) : Except Markup.Fault Unit :=
  (Markup.checkStyle (cell t.styles i)).mapError .style

-- What is seen of the cells, column by column. The style of a column is looked at before them. A
-- page without room is not looked at.
def look (t : Table) : Except Markup.Fault (List (List Markup.Styled)) :=
  (List.range t.columns).mapM fun i => do
    if 0 < t.limit then t.checkStyle i
    if t.isRoomy then t.lines.mapM fun cells => Markup.visible (cell cells i)
    else return t.lines.map fun _ => ⟨[], []⟩

-- The cells of columns side by side.
def span (widths : List Nat) : Nat :=
  widths.foldr (· + ·) 0

-- The sum of the widths is made smaller by `excess`, in equal parts of the columns from `top` on
-- that have the greatest width, which shrink at most by `most`.
def shrink (top most : Nat) : (excess sharers : Nat) → List Nat → List Nat
  | _, _, [] => []
  | excess, sharers, width :: rest =>
    if width = top && 0 < sharers then
      let part := min most (Double.roundHalfEven excess sharers)
      (width - part) :: shrink top most (excess - part) (sharers - 1) rest
    else width :: shrink top most excess sharers rest

-- Brings the widths down to a sum of `limit`: the widest columns come down to the next widest,
-- over and over. The first argument bounds how often.
def collapse : Nat → Nat → List Nat → List Nat
  | 0, _, widths => widths
  | n + 1, limit, widths =>
    let top := widths.foldl max 0
    let next := (widths.filter (· ≠ top)).foldl max 0
    let excess := span widths - limit
    if excess = 0 || top = next then widths
    else
      collapse n limit
        (shrink top (min excess (top - next)) excess (widths.count top) widths)

-- The width that a column would have on a page of any width. Without room it takes all there is.
def naturalWidth (t : Table) (column : List Markup.Styled) : Nat :=
  if t.isRoomy then
    min t.limit ((column.map fun s => Text.measure s.text).foldl max 0 + t.padding)
  else max 1 t.limit

-- The widths of the columns with their padding: those of their longest lines, if the page is wide
-- enough.
def widths (t : Table) (columns : List (List Markup.Styled)) : List Nat :=
  let natural := columns.map t.naturalWidth
  collapse (t.limit + natural.length) t.limit natural

-- The cells of a row with the widths of their columns.
def row (columns : List (List Markup.Styled)) (widths : List Nat) (i : Nat) :
    List (Markup.Styled × Nat) :=
  (columns.map fun column => (column[i]?).getD ⟨[], []⟩).zip widths

def spaces (n : Nat) : Text :=
  List.replicate n (.char ' ')

def filled (width : Nat) (text : Text) : Text :=
  text ++ spaces (width - Text.width text)

-- The lines of a cell in a column. Where there is no room for text there are none.
def cellLines (t : Table) (s : Markup.Styled) (width : Nat) :
    Except Markup.Fault (List Text) := do
  let room := width - t.padding
  if room = 0 then return []
  let lines ← (s.layOut .ellipsis .left room).mapM (·.seen)
  return lines.map fun line => spaces t.margin ++ filled room line ++ spaces t.margin

-- The bars between and around the cells of a line.
structure Bars where
  left : Text
  between : Text
  right : Text
deriving DecidableEq, Repr

def Bars.line (bars : Bars) (parts : List Text) : Text :=
  bars.left ++ Text.join bars.between parts ++ bars.right

def bars (t : Table) (isHeader : Bool) : Bars :=
  if !t.framed then ⟨[], [], []⟩
  else if isHeader then ⟨"┃", "┃", "┃"⟩
  else ⟨"│", "│", "│"⟩

-- The lines of a row: the first lines of its cells side by side, then the second ones, and so on.
-- The cells of the headers stand at the bottom.
def rowLines (t : Table) (isHeader : Bool) (cells : List (Markup.Styled × Nat)) :
    Except Markup.Fault (List Text) := do
  let laid ← cells.mapM fun (s, width) => t.cellLines s width
  let height := (laid.map List.length).foldl max 1
  let blank := cells.map fun (_, width) => spaces width
  let whole := (laid.zip blank).map fun (lines, blank) =>
    let missing := List.replicate (height - lines.length) blank
    if isHeader then missing ++ lines else lines ++ missing
  return (List.range height).map fun i => (t.bars isHeader).line (whole.map fun ls => cell ls i)

-- A line of the frame.
def rule (stroke : Char) (bars : Bars) (widths : List Nat) : Text :=
  bars.line (widths.map fun width => List.replicate width (.char stroke))

-- The title stands in the middle above the table.
def titleLines (t : Table) (width : Nat) : Except Markup.Fault (List Text) := do
  if t.title.isEmpty then return []
  let lines ← ((← Markup.visible t.title).layOut .fold .middle width).mapM (·.seen)
  return lines.map fun line => filled width (spaces ((width - Text.width line) / 2) ++ line)

-- The title above the table, the headers and the rows. What goes beyond the page is not shown. A
-- table without columns is an empty line.
def text (t : Table) : Except Markup.Fault Text := do
  if t.columns = 0 then return "\n"
  let columns ← t.look
  let widths := t.widths columns
  let title ← t.titleLines (span widths + t.border)
  if t.limit = 0 then (List.range t.columns).forM t.checkStyle
  let rows ← (List.range t.lines.length).mapM fun i =>
    t.rowLines (t.framed && i = 0) (row columns widths i)
  let lines :=
    if t.framed then
      rule '━' ⟨"┏", "┳", "┓"⟩ widths :: (rows.take 1).flatten ++
        rule '━' ⟨"┡", "╇", "┩"⟩ widths :: (rows.drop 1).flatten ++
        [rule '─' ⟨"└", "┴", "┘"⟩ widths]
    else rows.flatten
  return Report.ended ((title ++ lines).map (Text.takeCells Report.pageWidth))

-- The rows by their headers. Of two headers of one name the last counts.
def toValue (t : Table) : Value :=
  .list (t.rows.map fun cells => .table (Dict.ofList (t.headers.zip (cells.map .text))))

end Table

namespace Report

-- Other programs get the data behind a table, if there is any, rather than its rows.
def table (mode : Mode) (t : Table) (data : Value) : Report :=
  match mode with
  | .human => t.text.map onOut
  | .json => .ok (success (if data.isGiven then data else t.toValue))

end Report

end CommandCompletion
