import CommandCompletion.Program.Scan
import CommandCompletion.Settings.Config

namespace CommandCompletion.Program

-- The files that a run looks at. They are copied into its store before it starts, and what it
-- changed is copied back after it.

def settingsFile? (s : Store) : Option FilePath :=
  ((FilePath.ofString (Settings.folderName s)).expandHome s.home?).map (·.join "config.toml")

def optionTexts (words : List Text) : List Text :=
  match Scan.ofWords .top false words with
  | .error _ => []
  | .ok scan => (["--commands", "--registries"] : List Text).filterMap scan.value?

def settingTexts (settings : Dict Value) : List Text :=
  match settings.get? "data" with
  | some (.table members) =>
    members.filterMap fun (_, value) =>
      match value with
      | .text path => some path
      | _ => none
  | _ => []

-- The data files of a run whose settings are in the store already.
def dataFiles (s : Store) (words : List Text) : List FilePath :=
  let settings := (Settings.load s).1.toOption.getD []
  (optionTexts words ++ settingTexts settings).filterMap fun path =>
    (FilePath.ofText path).expandHome s.home?

-- The path itself and the folders on the way to it, outermost first.
def upTo (path : FilePath) : List FilePath :=
  (List.range path.parts.length).map fun i => { path with parts := path.parts.take (i + 1) }

def sameEntry : Entry → Entry → Bool
  | .folder, .folder => true
  | .file old, .file new => old.data = new.data
  | _, _ => false

-- The entries that a run made or changed, in the order in which they have to be.
def changes (before after : Store) : List (Position × Entry) :=
  (after.entries.filter fun (position, entry) =>
    !((before.entry? position).any (sameEntry entry))).reverse

def positionText : Position → String
  | "/" :: rest => "/" ++ "/".intercalate rest
  | parts => "/".intercalate parts

end CommandCompletion.Program
