import CommandCompletion.Report.Basic

namespace CommandCompletion

-- Marked-up lines in a frame.
structure Panel where
  title : Option Text := none
  lines : List Text
deriving DecidableEq, Repr

namespace Panel

def rule (n : Nat) : Text :=
  List.replicate n (.char '─')

-- The upper side of the frame, with the title in its middle.
def top : Option Text → Text
  | none => "╭" ++ rule (Report.pageWidth - 2) ++ "╮"
  | some title =>
    let shown := " " ++ title ++ " "
    let room := Report.pageWidth - 4 - Text.width shown
    "╭─" ++ rule (room / 2) ++ shown ++ rule (room - room / 2) ++ "─╮"

def line (shown : Text) : Text :=
  let room : Text := List.replicate (Report.pageWidth - 4 - Text.width shown) (.char ' ')
  "│ " ++ shown ++ room ++ " │"

def bottom : Text :=
  "╰" ++ rule (Report.pageWidth - 2) ++ "╯"

def text (p : Panel) : Except Markup.Fault Text := do
  let title ← p.title.mapM fun title => do (← Markup.visible title).seen
  let lines ← p.lines.mapM fun line => do (← Markup.visible line).seen
  return Report.ended (top title :: lines.map line ++ [bottom])

end Panel

end CommandCompletion
