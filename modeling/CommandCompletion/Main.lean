import CommandCompletion.Program.Files
import CommandCompletion.Program.Run

namespace CommandCompletion.Program

-- What stands at a path of the real file tree.
def entryAt (path : FilePath) : IO (Option Entry) := do
  try
    return some (.file (← IO.FS.readBinFile path.text))
  catch
    | .inappropriateType _ 21 _ => return some .folder
    | _ => return none

def copyIn (s : Store) (path : FilePath) : IO Store :=
  (upTo path).foldlM (fun s path => do
    match s.locate path, ← entryAt path with
    | .ok position, some entry => return s.put position entry
    | _, _ => return s) s

def copyOut (before after : Store) : IO Unit :=
  (changes before after).forM fun (position, entry) => do
    match entry with
    | .folder => IO.FS.createDirAll (positionText position)
    | .file bytes => IO.FS.writeBinFile (positionText position) bytes

def variablesOf (names : List String) : IO (Dict String) := do
  let values ← names.mapM fun name => IO.getEnv name
  return (names.zip values).filterMap fun (name, value) => value.map (Text.ofString name, ·)

def storeFor (words : List Text) : IO Store := do
  let s : Store := { environment := ← variablesOf ["HOME", "MCCOMPLETE_CONFIG_DIR"] }
  let s ← match settingsFile? s with
    | none => pure s
    | some path => copyIn s path
  (dataFiles s words).foldlM copyIn s

-- Shows what a run has to tell so far.
def tell (w : World) : IO World := do
  w.output.forM fun m =>
    match m.channel with
    | .out => IO.print m.text.spelled
    | .err => IO.eprint m.text.spelled
  w.records.forM fun r => IO.eprintln (r.level.name ++ " " ++ r.text.spelled)
  return { w with output := [], records := [] }

def promptText : Value → Text
  | .text prompt => prompt
  | other => other.shown

-- Ends when `turn` says so. Reading is beyond what can be shown to end.
partial def talk (s : Session) (w : World) : IO Ending := do
  IO.print (promptText s.prompt).spelled
  (← IO.getStdout).flush
  let line ← (← IO.getStdin).getLine
  let given := if line.isEmpty then none else some (Text.ofString line)
  match (turn s given).run w with
  | .ok true w => talk s (← tell w)
  | .ok false w => return .ofResult (.ok () w)
  | .error stop w => return .ofResult (.error stop w)

-- A run on the real files. What it says is shown as it goes, and what it changes is kept.
def perform (words : List Text) : IO UInt32 := do
  let before ← storeFor words
  let ending ← match (start words).run { store := before } with
    | .ok () w =>
      match w.session with
      | none => pure (Ending.ofResult (.ok () w))
      | some s => talk s (← tell w)
    | .error stop w => pure (Ending.ofResult (.error stop w))
  discard (tell ending.world)
  copyOut before ending.world.store
  if let some c := ending.crash then IO.eprintln ("error: " ++ c.message.spelled)
  return ending.code.toUInt32

end CommandCompletion.Program

def main (words : List String) : IO UInt32 :=
  CommandCompletion.Program.perform (words.map CommandCompletion.Text.ofString)
