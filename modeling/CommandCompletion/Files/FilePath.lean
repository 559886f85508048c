import CommandCompletion.Text

namespace CommandCompletion

-- A path in the file tree: where it starts, and its parts without empty ones and dots.
structure FilePath where
  root : String
  parts : List String
deriving DecidableEq, Repr

namespace FilePath

def splitSlash (chars : List Char) : List (List Char) :=
  match chars with
  | [] => [[]]
  | c :: rest =>
    match splitSlash rest with
    | first :: others => if c = '/' then [] :: first :: others else (c :: first) :: others
    | [] => [[c]]

-- Exactly two slashes in front are kept; more are one.
def rootOf (chars : List Char) : String :=
  match chars with
  | '/' :: '/' :: '/' :: _ => "/"
  | '/' :: '/' :: _ => "//"
  | '/' :: _ => "/"
  | _ => ""

def ofString (path : String) : FilePath where
  root := rootOf path.toList
  parts := ((splitSlash path.toList).map String.ofList).filter fun part => part ≠ "" && part ≠ "."

-- No file has halves in its path.
def ofText (path : Text) : FilePath :=
  ofString path.spelled

def text (path : FilePath) : String :=
  let body := "/".intercalate path.parts
  if path.root = "" && body = "" then "." else path.root ++ body

-- No file has a null character in its path.
def hasNull (path : FilePath) : Bool :=
  path.parts.any (·.toList.contains '\x00')

def join (path : FilePath) (part : String) : FilePath :=
  { path with parts := path.parts ++ [part] }

def dropSlashes (path : String) : String :=
  String.ofList (path.toList.reverse.dropWhile (· = '/')).reverse

-- A tilde in front, with the name of a user or without one, stands for a home directory.
def expandHome (homeOf : String → Option String) (path : FilePath) : Option FilePath :=
  match path.root, path.parts with
  | "", first :: rest =>
    match first.toList with
    | '~' :: user =>
      match homeOf (String.ofList user) with
      | none => none
      | some home =>
        if home.toList.head? = some '~' then none
        else
          let dir := dropSlashes home
          let base := ofString (if dir = "" then "/" else dir)
          some { base with parts := base.parts ++ rest }
    | _ => some path
  | _, _ => some path

end FilePath

end CommandCompletion
