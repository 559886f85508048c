import CommandCompletion.Program.Request
import CommandCompletion.Report.Outline
import CommandCompletion.Report.Settings
import CommandCompletion.Sample

namespace CommandCompletion.Program

-- The level of the log, from the settings unless it was chosen.
def logLevel (c : Choices) : Action Level := do
  match c.level with
  | some level => return level
  | none =>
    let settings ← onSettings c.mode Settings.load
    match settings.get? "logging" with
    | some (.table members) =>
      match Dict.get? members "level" with
      | some (.text name) => return Level.ofName name
      | _ => crash .levelNotText
    | _ => crash .loggingNotTable

def sectionOf (settings : Dict Value) (name : Text) : Action (Dict Value) :=
  match (settings.get? name).getD (.table []) with
  | .table members => return members
  | _ => crash (.sectionNotTable name)

-- The path of a data file: the chosen one, or else that of the settings. Without either the
-- bundled data is used.
def dataPath (settings : Dict Value) (chosen : Option Text) (name : Text) :
    Action (Option Value) := do
  match chosen with
  | some path => return some (.text path)
  | none => return (Dict.get? (← sectionOf settings "data") name).filter (·.isGiven)

def loadGrammar (mode : Mode) : Option Value → Action Grammar
  | none => do
    log [Sample.grammar.buildRecord]
    return Sample.grammar
  | some (.text path) => do
    let g ← onLoad mode (Loading.grammar (← get).store path)
    log (Loading.grammarRecords g path)
    return g
  | some _ => crash .pathNotText

def loadRegistries (mode : Mode) : Option Value → Action Registries
  | none => do
    log Sample.registries.warnings
    return Sample.registries
  | some (.text path) => do
    let r ← onLoad mode (Loading.registries (← get).store path)
    log (Loading.registryRecords r path)
    return r
  | some _ => crash .pathNotText

def commandSet (c : Choices) : Action CommandSet := do
  let settings ← onSettings c.mode Settings.load
  let commands ← dataPath settings c.commands "commands_path"
  let registries ← dataPath settings c.registries "registries_path"
  let g ← loadGrammar c.mode commands
  return ⟨g, ← loadRegistries c.mode registries⟩

def onGrammar {α : Type} (mode : Mode) : Except RedirectFault α → Action α
  | .ok a => return a
  | .error fault => fail mode fault.message

def complete (c : Choices) (line : Text) : Action Unit := do
  let s ← commandSet c
  log (s.completeRecords line)
  report (Report.candidates c.mode line (← onGrammar c.mode (s.complete line)))

def parse (c : Choices) (line : Text) : Action Unit := do
  let s ← commandSet c
  log (s.parseRecords line)
  report (Report.parse c.mode line (← onGrammar c.mode (s.parse line)))

def tree (c : Choices) (path : Path) (depth : Nat) : Action Unit := do
  let g := (← commandSet c).grammar
  log (redirectRecords (g.hopsAlong g.top path))
  match ← onGrammar c.mode (g.find path) with
  | none => fail c.mode ("No such command path: " ++ Text.join " " path)
  | some spot =>
    log spot.records
    let target ← onGrammar c.mode spot.resolve
    if c.mode = .json && Node.maxDepth < target.node.depth then crash .tooDeep
    report (Report.tree c.mode path depth target.node)

def configSet (c : Choices) (key raw : Text) : Action Unit := do
  let settings ← onSettings c.mode fun s => Settings.set s key raw
  let (part, name) := Settings.splitKey key
  report (Report.setting c.mode key (((settings.get? part).bind (·.get? name)).getD .null))

-- Whether a number that is not written stands among the settings that are shown.
def showsLong (mode : Mode) (settings : Dict Value) : Bool :=
  match mode with
  | .json => (Value.table settings).hasLong
  | .human =>
    settings.any fun (_, values) =>
      match values with
      | .table members => Value.memberLong members
      | _ => false

-- Whether more values than a document holds stand one inside the other among the settings that are
-- shown.
def showsDeep (mode : Mode) (settings : Dict Value) : Bool :=
  match mode with
  | .json => Json.maxDepth ≤ (Value.table settings).depth
  | .human =>
    settings.any fun (_, values) =>
      match values with
      | .table members => Json.maxDepth < Value.depthOfMembers members
      | _ => false

def configShow (c : Choices) : Action Unit := do
  let settings ← onSettings c.mode Settings.load
  if showsLong c.mode settings then crash .longNumber
  if showsDeep c.mode settings then crash (.settings .tooDeep)
  report (Report.settings c.mode settings)

def answer (c : Choices) : Request → Action Unit
  | .complete line => complete c line
  | .parse line => parse c line
  | .tree path depth => tree c path depth
  | .configShow => configShow c
  | .configSet key raw => configSet c key raw
  | .configPath => do report (Report.path c.mode (← onSettings c.mode Settings.configPath))

-- Sets up a session. Its history is kept in a file unless the settings say otherwise.
def openSession (c : Choices) : Action Unit := do
  let settings ← onSettings c.mode Settings.load
  let s ← commandSet c
  report (Session.banner s)
  let members ← sectionOf settings "repl"
  let history ←
    if ((Dict.get? members "history").getD (.bool true)).isGiven then
      History.file <$> onSettings c.mode Settings.historyPath
    else pure .memory
  let prompt := (Dict.get? members "prompt").getD (.text "> ")
  modify fun w => { w with session := some ⟨c.mode, s, history, prompt⟩ }

-- Reads the command line, and answers its request or sets up a session if there is none.
def start (words : List Text) : Action Unit := do
  let (c, rest) ← choices words
  match rest with
  | [] =>
    let level ← logLevel c
    modify fun w => { w with level }
    openSession c
  | name :: rest =>
    match Command.ofName? name with
    | none =>
      if Scan.isOption name then discard (choices (name :: rest))
      refuse .top (.unknownCommand name)
    | some command =>
      let level ← logLevel c
      modify fun w => { w with level }
      answer c (← request command rest)

-- Answers one line of a session and tells whether the session goes on. No line stands for the end
-- of the input or an interruption.
def turn (s : Session) (line : Option Text) : Action Bool := do
  modify fun w => { w with reads := w.reads + 1 }
  let query := (line.map Query.ofLine).getD .leave
  log (s.records query)
  report (s.report query)
  return query ≠ .leave

-- Answers lines until one ends the session; the end of the lines does too.
def converse (s : Session) : List (Option Text) → Action Unit
  | [] => discard (turn s none)
  | line :: rest => do if ← turn s line then converse s rest

-- What a run comes to. A crash leaves the code of a fault.
structure Ending where
  code : Nat
  crash : Option Crash
  world : World

def Ending.ofResult : EStateM.Result Stop World Unit → Ending
  | .ok _ w => ⟨0, none, w⟩
  | .error (.exit code) w => ⟨code, none, w⟩
  | .error (.crash c) w => ⟨1, some c, w⟩

-- A whole run: the command line, then the lines of a session if one was set up.
def run (store : Store) (words : List Text) (lines : List (Option Text)) : Ending :=
  .ofResult <| (do
    start words
    if let some s := (← get).session then converse s lines : Action Unit).run { store }

end CommandCompletion.Program
