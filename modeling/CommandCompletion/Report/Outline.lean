import CommandCompletion.Grammar.Export
import CommandCompletion.Report.Line

namespace CommandCompletion

-- A tree of marked-up labels.
inductive Outline
  | branch (label : Text) (parts : List Outline)

namespace Outline

mutual

-- The lines of an outline. The first begins with `first`, the others with `later`; below a label
-- its parts hang from guides.
def lines (first later : Text) : Outline → Except Markup.Fault (List Text)
  | .branch label parts => do
    let shown := (← Markup.visible label).layOut .fold .left (Report.pageWidth - later.length)
    let own ← shown.mapM (·.seen)
    let below ← partLines later parts
    match own with
    | [] => return below
    | top :: more => return (first ++ top) :: more.map (later ++ ·) ++ below

def partLines (indent : Text) : List Outline → Except Markup.Fault (List Text)
  | [] => .ok []
  | [part] => part.lines (indent ++ "└── ") (indent ++ "    ")
  | part :: rest => do
    let first ← part.lines (indent ++ "├── ") (indent ++ "│   ")
    return first ++ (← partLines indent rest)

end

def text (o : Outline) : Except Markup.Fault Text :=
  (o.lines [] []).map Report.ended

end Outline

namespace Node

def label (node : Node) (name : Text) : Text :=
  let shown : Text :=
    if node.kind = .argument then
      let parser := (node.parser.filter (!·.isEmpty)).getD "?"
      "[green]<" ++ plain name ++ ">[/green] [dim]" ++ plain parser ++ "[/dim]"
    else "[cyan]" ++ plain name ++ "[/cyan]"
  let mark : Text := if node.executable then " [yellow]*[/yellow]" else []
  shown ++ mark ++
    match node.redirect with
    | none => []
    | some path => " [magenta]→ " ++ pathOr "<root>" path ++ "[/magenta]"

-- The outlines of a node's own children, down to a depth. What lies deeper is counted. Redirects
-- are shown and not followed.
def outlines (node : Node) : Nat → List Outline
  | 0 =>
    if node.children.isEmpty then []
    else [.branch ("[dim]… " ++ toString node.children.length ++ " more[/dim]") []]
  | depth + 1 =>
    node.children.map fun (name, child) => .branch (child.label name) (child.outlines depth)

def outline (node : Node) (path : Path) (depth : Nat) : Outline :=
  .branch ("[bold]" ++ pathOr "<root>" path ++ "[/bold]") (node.outlines depth)

end Node

namespace Report

-- The grammar below a node that stands at the end of a path.
def tree (mode : Mode) (path : Path) (depth : Nat) (node : Node) : Report :=
  match mode with
  | .json => .ok (success node.toValue)
  | .human => (node.outline path depth).text.map onOut

end Report

end CommandCompletion
