import CommandCompletion.Program.World
import CommandCompletion.Text.Digit

namespace CommandCompletion.Program

-- What the options in front of a command choose.
structure Choices where
  mode : Mode
  commands : Option Text
  registries : Option Text
  level : Option Level
deriving DecidableEq, Repr

-- What a command line asks for.
inductive Request
  | complete (line : Text)
  | parse (line : Text)
  | tree (path : Path) (depth : Nat)
  | configShow
  | configSet (key raw : Text)
  | configPath
deriving DecidableEq, Repr

-- The commands that follow the first options.
inductive Command
  | complete
  | parse
  | tree
  | config
deriving DecidableEq, Repr

def Command.names : List (Text × Command) :=
  [("complete", complete), ("parse", parse), ("tree", tree), ("config", config)]

def Command.ofName? (name : Text) : Option Command :=
  names.lookup name

namespace Choices

-- The levels that an option can choose, by their names in any case.
def levels : List (Text × Level) :=
  [("debug", .debug), ("info", .info), ("warning", .warning), ("error", .error)]

def level? (text : Text) : Option Level :=
  levels.lookup (Text.asciiLower text)

-- An empty path chooses nothing.
def ofScan (scan : Scan) : Choices where
  mode := if scan.has "--json" then .json else .human
  commands := (scan.value? "--commands").filter (!·.isEmpty)
  registries := (scan.value? "--registries").filter (!·.isEmpty)
  level := (scan.value? "--log-level").bind level?

end Choices

def version : String := "mccomplete, version 0.1.0"

def showHelp {α : Type} (page : Page) : Action α := do
  write (Report.onOut (helpText page))
  exit 0

-- Checks the value of an option in front of a command.
def check (option : Text × Option Text) : Action Unit := do
  match option with
  | (_, none) => return
  | (name, some text) =>
    if name = "--log-level" then
      if (Choices.level? text).isNone then refuse .top (.notLevel text)
    else
      let path := FilePath.ofText text
      if text.hasHalf then crash .halfText
      if path.hasNull then crash .nullInPath
      if !text.isEmpty && (← get).store.isFolder path then refuse .top (.notFile name text)

-- The choices in front of the command and the words from the command on. Of two options that end
-- the run the first counts.
def choices (words : List Text) : Action (Choices × List Text) := do
  let scan ← onUsage .top (Scan.ofWords .top false words)
  match scan.options.keys.find? fun name : Text => name = "--help" || name = "--version" with
  | some name =>
    if name = "--help" then showHelp .top
    else
      write (Report.onOut (version ++ "\n"))
      exit 0
  | none =>
    scan.options.forM check
    return (.ofScan scan, scan.words)

def scanPage (page : Page) (mixed : Bool) (words : List Text) : Action Scan := do
  let scan ← onUsage page (Scan.ofWords page mixed words)
  if scan.has "--help" then showHelp page else return scan

def noWords (page : Page) : List Text → Action Unit
  | [] => return
  | first :: others => refuse page (.argumentsUnwanted first others)

-- The one word of a page that may be left out.
def lineWord (page : Page) (words : List Text) : Action Text := do
  match (← scanPage page true words).words with
  | [] => return []
  | line :: others =>
    noWords page others
    return line

def depthOf (scan : Scan) : Except UsageFault Nat :=
  match scan.value? "--depth" with
  | none => .ok 2
  | some text =>
    match Text.integer? text with
    | none => .error (.notWhole text)
    | some depth => if depth < 1 then .error (.tooShallow depth) else .ok depth.toNat

def keyAndValue : List Text → Action (Text × Text)
  | [] => refuse .configSet (.argumentMissing "KEY")
  | [_] => refuse .configSet (.argumentMissing "VALUE")
  | key :: raw :: others => do
    noWords .configSet others
    return (key, raw)

def configRequest (words : List Text) : Action Request := do
  if words.isEmpty then
    write (Report.onErr (helpText .config))
    exit 2
  match (← scanPage .config false words).words with
  | [] => refuse .config .commandMissing
  | name :: rest =>
    if name = "show" then
      noWords .configShow (← scanPage .configShow true rest).words
      return .configShow
    else if name = "set" then
      let (key, raw) ← keyAndValue (← scanPage .configSet true rest).words
      return .configSet key raw
    else if name = "path" then
      noWords .configPath (← scanPage .configPath true rest).words
      return .configPath
    else
      if Scan.isOption name then discard (scanPage .config false (name :: rest))
      refuse .config (.unknownCommand name)

-- The words after a command's name.
def request (command : Command) (words : List Text) : Action Request :=
  match command with
  | .complete => Request.complete <$> lineWord .complete words
  | .parse => Request.parse <$> lineWord .parse words
  | .tree => do
    let scan ← scanPage .tree true words
    return .tree scan.words (← onUsage .tree (depthOf scan))
  | .config => configRequest words

end CommandCompletion.Program
