import CommandCompletion.Json.Printer
import CommandCompletion.Markup

namespace CommandCompletion

-- Whether reports are written for people or as documents for other programs.
inductive Mode
  | human
  | json
deriving DecidableEq, Repr

-- Documents and what is asked for go to the first channel, notices to the second.
inductive Channel
  | out
  | err
deriving DecidableEq, Repr

-- A text that is sent to a channel at once.
structure Message where
  channel : Channel
  text : Text
deriving DecidableEq, Repr

-- What is sent, in order.
abbrev Output := List Message

-- All that one channel gets.
def Output.on (o : Output) (channel : Channel) : Text :=
  (o.filter (·.channel = channel)).flatMap (·.text)

-- A report, unless its markup is broken.
abbrev Report := Except Markup.Fault Output

namespace Report

def onOut (lines : Text) : Output :=
  [⟨.out, lines⟩]

def onErr (lines : Text) : Output :=
  [⟨.err, lines⟩]

-- How many cells a line of the page has.
def pageWidth : Nat := 2000

-- Lines, each with its end.
def ended (lines : List Text) : Text :=
  lines.flatMap (· ++ "\n")

-- A marked-up message as people see it, on lines of its own.
def seen (markup : Text) : Except Markup.Fault Text := do
  let lines := (← Markup.visible markup).layOut .fold .left pageWidth
  return ended (← lines.mapM (·.seen))

-- A marked-up message whose lines may be longer than the page.
def seenWide (markup : Text) : Except Markup.Fault Text := do
  return ended (← (← Markup.visible markup).lines.mapM (·.seen))

-- A document of its own, with a newline after it.
def document (v : Value) : Output :=
  onOut (.ofChars (Json.print v) ++ "\n")

def envelope (status : Text) (data : Value) : Output :=
  document (.table [("status", .text status), ("data", data)])

def success (data : Value) : Output :=
  envelope "success" data

def failure (message : Text) (code : Int) : Output :=
  document
    (.table [("status", .text "error"),
      ("error", .table [("message", .text message), ("code", .int code)])])

-- Messages for people leave the first channel to documents.
def channelFor : Mode → Channel
  | .human => .out
  | .json => .err

def print (mode : Mode) (markup : Text) : Report :=
  (seen markup).map fun text => [⟨channelFor mode, text⟩]

-- A plain message behind a sign that tells its kind.
def signed (sign : String) (message : Text) : Text :=
  sign ++ " " ++ Markup.escape message

def done (mode : Mode) (message : Text) : Report :=
  match mode with
  | .human => (seen (signed "[green]✓[/green]" message)).map onOut
  | .json => .ok []

def warning (mode : Mode) (message : Text) : Report :=
  print mode (signed "[yellow]![/yellow]" message)

def problem (mode : Mode) (message : Text) : Report :=
  match mode with
  | .human => (seen (signed "[red]✗[/red]" message)).map onErr
  | .json => .ok (failure message 1)

def info (mode : Mode) (message : Text) : Report :=
  match mode with
  | .human => (seen (signed "[dim]ℹ[/dim]" message)).map onOut
  | .json => .ok []

end Report

end CommandCompletion
