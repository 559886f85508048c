import CommandCompletion.Data.Dict
import CommandCompletion.Files.FilePath
import CommandCompletion.Text.Quoted

namespace CommandCompletion

-- Why the file tree refuses an operation.
inductive FileError
  | notFound
  | exists
  | notFolder
  | isFolder
  | nameTooLong
deriving DecidableEq, Repr

def FileError.number : FileError → Nat
  | notFound => 2
  | .exists => 17
  | notFolder => 20
  | isFolder => 21
  | nameTooLong => 36

def FileError.reason : FileError → String
  | notFound => "No such file or directory"
  | .exists => "File exists"
  | notFolder => "Not a directory"
  | isFolder => "Is a directory"
  | nameTooLong => "File name too long"

def FileError.message (error : FileError) (path : FilePath) : Text :=
  "[Errno " ++ toString error.number ++ "] " ++ error.reason ++ ": " ++ quote path.text

-- Files are the same when their bytes are.
instance (priority := 2000) decidableEqBytes : DecidableEq ByteArray := ByteArray.instDecidableEq

-- What stands at a position of the file tree.
inductive Entry
  | file (bytes : ByteArray)
  | folder
deriving DecidableEq

-- The position of an entry: the names on the way to it from the working directory. A slash leads
-- to the top of the tree, two dots to the folder above.
abbrev Position := List String

-- The files that the program works on, and the variables of its environment.
structure Store where
  entries : List (Position × Entry) := []
  environment : Dict String := []
deriving DecidableEq

namespace Store

def superuser : String := "root"

def superuserHome : String := "/root"

-- The working directory, the folders above it, the top of the tree and the home of the superuser
-- are always there.
def isGiven (position : Position) : Bool :=
  position = ["/"] || position = ["/", superuser] || position.all (· = "..")

def entry? (s : Store) (position : Position) : Option Entry :=
  if isGiven position then some .folder else s.entries.lookup position

def put (s : Store) (position : Position) (entry : Entry) : Store :=
  { s with entries := (position, entry) :: s.entries.filter (·.1 ≠ position) }

def above (position : Position) : Position :=
  if position = ["/"] then ["/"]
  else if position.all (· = "..") then position ++ [".."]
  else position.dropLast

-- No name in the file tree has more bytes than this.
def maxName : Nat := 255

-- No path has more bytes than this.
def maxPath : Nat := 4095

-- The position that a path leads to. Every part but the last has to be a folder.
def locateFrom (s : Store) (position : Position) : List String → Except FileError Position
  | [] => .ok position
  | part :: rest =>
    match s.entry? position with
    | none => .error .notFound
    | some (.file _) => .error .notFolder
    | some .folder =>
      if maxName < part.utf8ByteSize then .error .nameTooLong
      else s.locateFrom (if part = ".." then above position else position ++ [part]) rest

def locate (s : Store) (path : FilePath) : Except FileError Position :=
  if maxPath < path.text.utf8ByteSize then .error .nameTooLong
  else s.locateFrom (if path.root = "" then [] else ["/"]) path.parts

def find (s : Store) (path : FilePath) : Except FileError Entry := do
  match s.entry? (← s.locate path) with
  | none => .error .notFound
  | some entry => .ok entry

def isFolder (s : Store) (path : FilePath) : Bool :=
  match s.find path with
  | .ok .folder => true
  | _ => false

def read (s : Store) (path : FilePath) : Except FileError ByteArray := do
  match ← s.find path with
  | .file bytes => .ok bytes
  | .folder => .error .isFolder

-- Writing needs the folder of the file, and replaces what the file held.
def write (s : Store) (path : FilePath) (bytes : ByteArray) : Except FileError Store := do
  let position ← s.locate path
  match s.entry? position with
  | some .folder => .error .isFolder
  | _ =>
    match s.entry? (above position) with
    | some .folder => .ok (s.put position (.file bytes))
    | some (.file _) => .error .notFolder
    | none => .error .notFound

def makeFolder (s : Store) (path : FilePath) (last : Bool) : Except FileError Store := do
  let position ← s.locate path
  match s.entry? position with
  | some .folder => .ok s
  | some (.file _) => if last then .error .exists else .ok s
  | none => .ok (s.put position .folder)

-- Makes the first `n` of the parts of a path that are missing.
def makeParts (s : Store) (path : FilePath) : Nat → Except FileError Unit × Store
  | 0 => (.ok (), s)
  | n + 1 =>
    match s.makeParts path n with
    | (.error error, s) => (.error error, s)
    | (.ok (), s) =>
      match s.makeFolder { path with parts := path.parts.take (n + 1) }
          (n + 1 = path.parts.length) with
      | .error error => (.error error, s)
      | .ok s => (.ok (), s)

-- Makes the folders of a path that are missing, outermost first. Those that were made before a
-- failure stay.
def makeFolders (s : Store) (path : FilePath) : Except FileError Unit × Store :=
  if maxPath < path.text.utf8ByteSize then (.error .nameTooLong, s)
  else s.makeParts path path.parts.length

def lookup? (s : Store) (name : String) : Option String :=
  s.environment.get? name

-- Sets a variable of the environment, whose text may not hold a null character, or removes it.
def withVariable (s : Store) (name : String) (value : Option String) : Option Store :=
  match value with
  | none => some { s with environment := s.environment.filter (·.1 ≠ name) }
  | some text =>
    if text.toList.contains '\x00' then none
    else some { s with environment := s.environment.insert name text }

-- The home directory of a user, or of whoever runs the program if none is named: the environment
-- tells it, unless that is the superuser. The homes of other users are not known.
def home? (s : Store) (user : String) : Option String :=
  if user = "" then some ((s.lookup? "HOME").getD superuserHome)
  else if user = superuser then some superuserHome
  else none

end Store

end CommandCompletion
