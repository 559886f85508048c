import CommandCompletion.Line.Suggestion
import CommandCompletion.Report.Table

namespace CommandCompletion

def CandidateKind.style : CandidateKind → String
  | keyword => "bold cyan"
  | enumValue => "green"
  | literalValue => "yellow"

-- Text that is shown as it stands.
def plain (text : Text) : Text :=
  Markup.escape text

def styled (style : String) (text : Text) : Text :=
  "[" ++ style ++ "]" ++ plain text ++ "[/]"

def Candidate.row (c : Candidate) : List Text :=
  [styled c.kind.style c.label, c.kind.name, plain (c.documentation.getD [])]

-- The text of a path, or `none` in its place.
def pathOr (none : Text) (path : Path) : Text :=
  let text := plain (Text.join " " path)
  if text.isEmpty then none else text

namespace Report

-- The title of the table is marked up: what looks like a tag in the line is taken for one.
def candidates (mode : Mode) (line : Text) (cs : List Candidate) : Report :=
  match mode with
  | .json => .ok (success (.list (cs.map (·.toValue))))
  | .human =>
    if cs.isEmpty then info .human ("No completions for " ++ quote line ++ ".")
    else
      table .human
        { title := "Completions for " ++ quote line,
          headers := ["Label", "Kind", "Documentation"], rows := cs.map (·.row) } .null

end Report

namespace Parse

variable {g : Grammar}

def toValue (parse : Parse g) (line : Text) : Value :=
  .table [("line", .text line), ("path", .list (parse.path.map .text)),
    ("tip", .text parse.tip.node.kind.name), ("executable", .bool parse.tip.node.executable),
    ("remainder", .text parse.remainder),
    ("properties", .table (parse.bindings.map fun (name, text) => (name, .text text)))]

-- The names of arguments are marked up, unlike all else that comes from the line or the grammar.
def rows (parse : Parse g) : List (List Text) :=
  let tip := parse.tip.node
  ["Path", pathOr "[dim]<root>[/dim]" parse.path] ::
    ["Tip", tip.kind.name ++ if tip.executable then " (executable)" else ""] ::
    ["Remainder", plain (quote parse.remainder)] ::
    parse.bindings.map fun (name, text) => ["<" ++ name ++ ">", plain text]

end Parse

namespace Report

def parse {g : Grammar} (mode : Mode) (line : Text) (parse : Parse g) : Report :=
  match mode with
  | .json => .ok (success (parse.toValue line))
  | .human => ({ rows := parse.rows, framed := false } : Table).text.map onOut

end Report

end CommandCompletion
