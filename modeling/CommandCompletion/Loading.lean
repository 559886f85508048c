import CommandCompletion.Files.Store
import CommandCompletion.Json.Reader
import CommandCompletion.Line.Trace
import CommandCompletion.Text.LineEnd

namespace CommandCompletion

-- The two kinds of data file.
inductive DataFile
  | grammar
  | registries
deriving DecidableEq, Repr

def DataFile.name : DataFile → String
  | grammar => "grammar"
  | registries => "registries"

def DataFile.title : DataFile → String
  | grammar => "Grammar"
  | registries => "Registries"

-- Why a data file cannot be used. A file that holds no text, a path that names no home or holds a
-- half or a null character, a number that is too long and values too deep inside others are not
-- reported: they stop the program.
inductive LoadFault
  | unreadable (what : DataFile) (path : FilePath) (error : FileError)
  | malformed (what : DataFile) (path : FilePath) (mistake : Json.Mistake) (place : Text.Location)
  | grammar (fault : GrammarFault)
  | registries (fault : RegistryFault)
  | notText
  | longNumber
  | tooDeep
  | noHome
  | halfInPath
  | nullInPath
deriving DecidableEq, Repr

def LoadFault.message : LoadFault → Text
  | unreadable what path error =>
    "Cannot read " ++ what.name ++ " file " ++ path.text ++ ": " ++ error.message path
  | malformed what path mistake place =>
    what.title ++ " file " ++ path.text ++ " is not valid JSON: " ++ mistake.message ++ ": line " ++
      toString place.line ++ " column " ++ toString place.column ++ " (char " ++
      toString place.offset ++ ")"
  | grammar fault => fault.message
  | registries fault => fault.message
  | notText => "not UTF-8"
  | longNumber => "number of too many digits"
  | tooDeep => "values too deep inside others"
  | noHome => "no home directory"
  | halfInPath => "path that is not Unicode"
  | nullInPath => "null character in a path"

namespace Loading

def readText (s : Store) (what : DataFile) (path : FilePath) : Except LoadFault (List Char) :=
  if path.hasNull then .error .nullInPath
  else
    match s.read path with
    | .error error => .error (.unreadable what path error)
    | .ok bytes =>
      match String.fromUTF8? bytes with
      | none => .error .notText
      | some text => .ok (Text.unifyLineEnds text.toList)

def readJson (s : Store) (what : DataFile) (path : Text) : Except LoadFault Value :=
  match (FilePath.ofText path).expandHome s.home? with
  | none => .error .noHome
  | some file => do
    if path.hasHalf then .error .halfInPath
    match Json.read (← readText s what file) with
    | .ok value => .ok value
    | .error .longNumber => .error .longNumber
    | .error .tooDeep => .error .tooDeep
    | .error (.malformed mistake place) => .error (.malformed what file mistake place)

-- Loads a grammar and tells what was loaded.
def grammar (s : Store) (path : Text) : Except LoadFault Grammar := do
  match Grammar.build (← readJson s .grammar path) with
  | .ok g => .ok g
  | .error fault => .error (.grammar fault)

def registries (s : Store) (path : Text) : Except LoadFault Registries := do
  match Registries.ofValue (← readJson s .registries path) with
  | .ok r => .ok r
  | .error fault => .error (.registries fault)

def grammarRecords (g : Grammar) (path : Text) : List Record :=
  [g.buildRecord,
    ⟨.info, .loading,
      "Loaded " ++ toString g.root.children.length ++ " commands (" ++ toString g.size ++
        " nodes) from " ++ path⟩]

def registryRecords (r : Registries) (path : Text) : List Record :=
  let names := Text.join ", " r.names
  let shown : Text := if names.isEmpty then "(none)" else names
  r.warnings ++
    [⟨.info, .loading,
      "Loaded registries " ++ shown ++ " from " ++ path⟩]

end Loading

end CommandCompletion
