import CommandCompletion.Files.FilePath
import CommandCompletion.Line.Trace
import CommandCompletion.Report.Line
import CommandCompletion.Report.Panel

namespace CommandCompletion.Program

-- What a line entered at the prompt asks for. Only lines without a slash in front are commands of
-- the grammar.
inductive Query
  | blank
  | leave
  | help
  | commands
  | unknown (text : Text)
  | line (text : Text)
deriving DecidableEq, Repr

def Query.ofLine (line : Text) : Query :=
  let text := Text.trim line
  if text.isEmpty then blank
  else if text = "/quit" || text = "/exit" then leave
  else if text = "/help" then help
  else if text = "/tree" then commands
  else if text.head? = some (.char '/') then unknown text
  else .line text

-- Where the lines of a session are remembered.
inductive History
  | file (path : FilePath)
  | memory
deriving DecidableEq, Repr

-- A conversation in which each line is reported on by itself.
structure Session where
  mode : Mode
  commands : CommandSet
  history : History
  prompt : Value

namespace Session

def emptyLine : Output :=
  Report.onOut "\n"

def welcome (s : CommandSet) : Panel where
  lines :=
    ["[bold cyan]mccomplete[/bold cyan] — Brigadier command completion",
      .ofString
        (toString s.grammar.root.children.length ++
          " commands loaded. Type [bold]/help[/bold] for help.")]

-- People and other programs get the same frame.
def banner (s : CommandSet) : Report :=
  (welcome s).text.map fun shown => emptyLine ++ Report.onOut shown ++ emptyLine

def help : Panel where
  title := some (.ofString "mccomplete Help")
  lines :=
    ["[bold cyan]USAGE[/bold cyan]",
      "  Type a command; completions appear as you type (Tab to cycle).",
      "  Press Enter to see how the line parses. Nothing is executed.",
      "",
      "[bold cyan]COMMANDS[/bold cyan]",
      "  /tree   — Show top-level commands",
      "  /help   — This help message",
      "  /quit   — Exit"]

def goodbye : Report :=
  Report.print .human "\n[dim]Goodbye![/dim]"

-- The names of the top-level commands in order. They are marked up.
def commandNames (s : CommandSet) : Text :=
  let names := (Dict.keys s.grammar.root.children).mergeSort Text.isAtMost
  Text.join ", " (names.map fun name => "[cyan]" ++ name ++ "[/cyan]")

def commandList (s : CommandSet) : Report :=
  let names := commandNames s
  Report.print .human (if names.isEmpty then "[dim]No commands.[/dim]" else names)

-- At most this many candidates are named.
def namedCandidates : Nat := 8

def expectation (candidates : List Candidate) : Text :=
  let names := Text.join ", " ((candidates.take namedCandidates).map (·.label))
  let next : Text := if names.isEmpty then "argument" else names
  "Incomplete command. Next: " ++ next

-- What is said of a line besides where it stopped.
def verdict (s : Session) (parse : Parse s.commands.grammar) : Except RedirectFault Report :=
  if !parse.remainder.isEmpty then
    .ok (Report.warning s.mode ("Unrecognized input from " ++ quote parse.remainder))
  else if parse.tip.node.executable then .ok (Report.done s.mode "Complete command.")
  else (s.commands.suggest parse).map fun cs => Report.info s.mode (expectation cs)

def lineReport (s : Session) (text : Text) : Report :=
  match s.commands.parse text with
  | .error fault => Report.problem s.mode fault.message
  | .ok parse => do
    let reached ← Report.parse s.mode text parse
    match s.verdict parse with
    | .error fault => return reached ++ (← Report.problem s.mode fault.message)
    | .ok verdict => return reached ++ (← verdict) ++ emptyLine

def lineRecords (s : Session) (text : Text) : List Record :=
  s.commands.parseRecords text ++
    match s.commands.parse text with
    | .error _ => []
    | .ok parse =>
      if parse.remainder.isEmpty && !parse.tip.node.executable then parse.tip.records else []

-- The answer to a line. It depends on nothing that was entered before.
def report (s : Session) : Query → Report
  | .blank => .ok []
  | .leave => goodbye
  | .help => help.text.map (Report.onOut · ++ emptyLine)
  | .commands => (commandList s.commands).map (· ++ emptyLine)
  | .unknown text =>
    (Report.problem s.mode
      ("Unknown command: " ++ text ++ ". Type /help for available commands.")).map (· ++ emptyLine)
  | .line text => s.lineReport text

def records (s : Session) : Query → List Record
  | .line text => s.lineRecords text
  | _ => []

end Session

end CommandCompletion.Program
