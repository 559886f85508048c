import CommandCompletion.Loading
import CommandCompletion.Program.Scan
import CommandCompletion.Program.Session
import CommandCompletion.Settings.Config

namespace CommandCompletion.Program

-- What stops a run without a report: faults nobody catches, broken markup, and settings of the
-- wrong kind.
inductive Crash
  | settings (fault : Settings.Fault)
  | loading (fault : LoadFault)
  | markup (fault : Markup.Fault)
  | sectionNotTable (name : Text)
  | loggingNotTable
  | levelNotText
  | pathNotText
  | nullInPath
  | longNumber
  | tooDeep
  | halfText
deriving DecidableEq, Repr

def Crash.message : Crash → Text
  | settings fault => fault.message
  | loading fault => fault.message
  | markup (.notOpen name) => "no tag " ++ quote name ++ " is open"
  | markup .nothingOpen => "no tag is open"
  | markup (.notHandler text _) => quote text ++ " is no handler"
  | markup (.style .notStyle) => "unknown style"
  | markup (.style .notNumber) => "a part of a color is no number"
  | sectionNotTable name => "section " ++ quote name ++ " is no table"
  | loggingNotTable => "section 'logging' is no table"
  | levelNotText => "the level of the log is no text"
  | pathNotText => "the path of a data file is no text"
  | nullInPath => "null character in a path"
  | longNumber => "number of too many digits"
  | tooDeep => "data nested too deep"
  | halfText => "text that is not Unicode"

-- How a run ends before its last step.
inductive Stop
  | exit (code : Nat)
  | crash (crash : Crash)
deriving DecidableEq, Repr

-- What a run works on and what it has come to.
structure World where
  store : Store
  level : Level := .warning
  output : Output := []
  records : List Record := []
  session : Option Session := none
  reads : Nat := 0

-- A step of a run. What was done before it stopped remains.
abbrev Action := EStateM Stop World

variable {α : Type}

def crash (c : Crash) : Action α :=
  throw (.crash c)

def exit (code : Nat) : Action α :=
  throw (.exit code)

-- Half a character has no place on the first channel; on the second its number stands for it.
def send (m : Message) : Action Unit := do
  if m.channel = .out && m.text.hasHalf then crash .halfText
  let text := Text.ofString m.text.spelled
  modify fun w => { w with output := w.output ++ [{ m with text }] }

def write (o : Output) : Action Unit :=
  o.forM send

-- Before markup turns out to be broken, there may be warnings.
def report : Report → Action Unit
  | .ok o => write o
  | .error fault => do
    write (Report.onErr (Report.ended (fault.warnings.map (·.text))))
    crash (.markup fault)

def log (records : List Record) : Action Unit :=
  modify fun w => { w with records := w.records ++ Record.kept w.level records }

-- Reports a fault and ends the run.
def fail (mode : Mode) (message : Text) : Action α := do
  report (Report.problem mode message)
  exit 1

-- A fault of the command line ends the run before anything else is done.
def refuse (page : Page) (fault : UsageFault) : Action α := do
  write (Report.onErr (Report.ended (fault.report page)))
  exit 2

def helpText (page : Page) : Text :=
  Report.ended (page.help.map .ofString)

def onUsage (page : Page) : Except UsageFault α → Action α
  | .ok a => return a
  | .error fault => refuse page fault

-- Faults of the settings are reported if somebody is expected to mend them.
def isReported : Settings.Fault → Bool
  | .notText | .longNumber | .tooDeep | .halfText | .noHome | .noFolder _ | .notTable => false
  | _ => true

def onSettings (mode : Mode) (operate : Store → Settings.Outcome α) : Action α := do
  let (result, store) := operate (← get).store
  modify fun w => { w with store }
  match result with
  | .ok a => return a
  | .error fault =>
    if isReported fault then fail mode fault.message else crash (.settings fault)

def isReportedLoad : LoadFault → Bool
  | .notText | .longNumber | .tooDeep | .noHome | .halfInPath | .nullInPath => false
  | .registries .notListed => false
  | _ => true

def onLoad (mode : Mode) : Except LoadFault α → Action α
  | .ok a => return a
  | .error fault =>
    if isReportedLoad fault then fail mode fault.message else crash (.loading fault)

end CommandCompletion.Program
