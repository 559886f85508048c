import CommandCompletion.Files.Store
import CommandCompletion.Settings.Coercion
import CommandCompletion.Settings.Merge
import CommandCompletion.Toml.Printer
import CommandCompletion.Toml.Reader

namespace CommandCompletion.Settings

-- The settings that are built in. An empty path stands for the bundled data.
def defaults : Dict Value :=
  [("data", .table [("commands_path", .text ""), ("registries_path", .text "")]),
    ("logging", .table [("level", .text "WARNING")]),
    ("repl", .table [("prompt", .text "> "), ("history", .bool true)])]

-- Why settings cannot be read or kept. The last seven are not reported: they stop the program.
inductive Fault
  | unknownSetting (key : Text)
  | coercion (fault : CoercionFault)
  | unreadable (error : FileError) (path : FilePath)
  | malformed (fault : Toml.Fault)
  | unwritable (error : FileError) (path : FilePath)
  | unprintable (fault : Toml.Unprintable)
  | notText
  | longNumber
  | tooDeep
  | halfText
  | noHome
  | noFolder (error : FileError)
  | notTable
deriving DecidableEq, Repr

def Fault.message : Fault → Text
  | unknownSetting key => "Unknown setting: " ++ key
  | coercion fault => fault.message
  | unreadable error path => "Failed to load config: " ++ error.message path
  | malformed fault => "Failed to load config: " ++ fault.message
  | unwritable error path => "Failed to save config: " ++ error.message path
  | unprintable fault => "Failed to save config: " ++ fault.message
  | notText => "not UTF-8"
  | longNumber => "number of too many digits"
  | tooDeep => "values too deep inside others"
  | halfText => "text that is not Unicode"
  | noHome => "no home directory"
  | noFolder error => error.reason
  | notTable => "section is no table"

-- What an operation comes to, and the files after it. A failed operation may have changed files.
abbrev Outcome (α : Type) := Except Fault α × Store

def Outcome.andThen {α β : Type} (first : Outcome α) (next : α → Store → Outcome β) : Outcome β :=
  match first with
  | (.error fault, s) => (.error fault, s)
  | (.ok a, s) => next a s

def folderName (s : Store) : String :=
  (s.lookup? "MCCOMPLETE_CONFIG_DIR").getD "~/.config/mccomplete"

-- The folder of the settings. It is made if it is missing.
def folder (s : Store) : Outcome FilePath :=
  match (FilePath.ofString (folderName s)).expandHome s.home? with
  | none => (.error .noHome, s)
  | some path =>
    match s.makeFolders path with
    | (.error error, s) => (.error (.noFolder error), s)
    | (.ok (), s) => (.ok path, s)

def configPath (s : Store) : Outcome FilePath :=
  (folder s).andThen fun path s => (.ok (path.join "config.toml"), s)

def historyPath (s : Store) : Outcome FilePath :=
  (folder s).andThen fun path s => (.ok (path.join "history"), s)

def parse (bytes : ByteArray) : Except Fault (Dict Value) :=
  match String.fromUTF8? bytes with
  | none => .error .notText
  | some text =>
    match Toml.read text.toList with
    | .ok members => .ok members
    | .error .longNumber => .error .longNumber
    | .error .tooDeep => .error .tooDeep
    | .error fault => .error (.malformed fault)

-- The settings of the file laid over the built-in ones.
def loadFrom (s : Store) (path : FilePath) : Except Fault (Dict Value) :=
  match s.find path with
  | .error .nameTooLong => .error (.noFolder .nameTooLong)
  | .error _ => .ok defaults
  | .ok .folder => .error (.unreadable .isFolder path)
  | .ok (.file bytes) => (parse bytes).map (merge defaults)

def load (s : Store) : Outcome (Dict Value) :=
  (configPath s).andThen fun path s => (loadFrom s path, s)

-- The file is emptied before settings are printed into it, and keeps what was printed before a
-- fault.
def save (s : Store) (config : Dict Value) : Outcome Unit :=
  (configPath s).andThen fun path s =>
    let printout := Toml.print config
    match s.write path (String.ofList printout.text).toUTF8 with
    | .error error => (.error (.unwritable error path), s)
    | .ok s =>
      match printout.fault with
      | some .longNumber => (.error .longNumber, s)
      | some .halfText => (.error .halfText, s)
      | some .tooDeep => (.error .tooDeep, s)
      | some fault => (.error (.unprintable fault), s)
      | none => (.ok (), s)

-- A table of values is added to its section, which has to be a table too. Any other value
-- replaces the section.
def updateSection (config : Dict Value) (part : Text) (values : Value) :
    Except Fault (Dict Value) :=
  match values with
  | .table members =>
    match (config.get? part).getD (.table []) with
    | .table old => .ok (config.insert part (.table (Dict.insertAll old members)))
    | _ => .error .notTable
  | value => .ok (config.insert part value)

def updateSections (config : Dict Value) : List (Text × Value) → Except Fault (Dict Value)
  | [] => .ok config
  | (name, values) :: rest =>
    match updateSection config name values with
    | .error fault => .error fault
    | .ok config => updateSections config rest

-- Loads the settings, changes some of them, and keeps them.
def update (s : Store) (updates : List (Text × Value)) : Outcome (Dict Value) :=
  (load s).andThen fun config s =>
    match updateSections config updates with
    | .error fault => (.error fault, s)
    | .ok config => (save s config).andThen fun _ s => (.ok config, s)

-- The section and the name that a dotted key addresses. Only the first dot parts them.
def splitKey (key : Text) : Text × Text :=
  (key.takeWhile (· ≠ .char '.'), (key.dropWhile (· ≠ .char '.')).drop 1)

-- The built-in value of a setting.
def default? (key : Text) : Option Value :=
  let (part, name) := splitKey key
  if name = "" then none else (defaults.get? part).bind (·.get? name)

-- Sets one of the built-in settings from its text.
def set (s : Store) (key raw : Text) : Outcome (Dict Value) :=
  match default? key with
  | none => (.error (.unknownSetting key), s)
  | some default =>
    match coerce raw default key with
    | .error fault => (.error (.coercion fault), s)
    | .ok value =>
      let (part, name) := splitKey key
      update s [(part, .table [(name, value)])]

end CommandCompletion.Settings
