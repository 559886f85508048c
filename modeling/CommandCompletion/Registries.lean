import CommandCompletion.Data.Value
import CommandCompletion.Identifier
import CommandCompletion.Log

namespace CommandCompletion

-- Named lists of identifiers, such as all items or all blocks.
structure Registries where
  entries : Dict (List Text)

-- Why data holds no registries. Entries that cannot be gone through one by one are not reported
-- as a fault of the registry: they stop the program.
inductive RegistryFault
  | notTable (kind : Text)
  | badShape (name : Text)
  | notText (name : Text)
  | notListed
deriving DecidableEq, Repr

def RegistryFault.message : RegistryFault → Text
  | notTable kind => "Registries must be a JSON object, got " ++ kind
  | badShape name => "Registry " ++ quote name ++ " must be a list or an object"
  | notText name => "Registry " ++ quote name ++ " contains non-string identifiers"
  | notListed => "entries cannot be listed"

namespace Registries

def empty : Registries := ⟨[]⟩

-- An unknown registry is empty.
def get (r : Registries) (name : Text) : List Text :=
  (r.entries.get? name).getD []

def names (r : Registries) : List Text :=
  r.entries.keys

def textOf? : Value → Option Text
  | .text s => some s
  | _ => none

def textsOf (name : Text) (items : List Value) : Except RegistryFault (List Text) :=
  match items.mapM textOf? with
  | some texts => .ok texts
  | none => .error (.notText name)

-- A registry is a list of identifiers, or an object whose entries are named by them. The entries
-- may be a list too, and a text is taken apart into its characters.
def identifiersOf (name : Text) : Value → Except RegistryFault (List Text)
  | .list items => textsOf name items
  | .table members =>
    match Dict.get? members "entries" with
    | none => .ok []
    | some (.table entries) => .ok (Dict.keys entries)
    | some (.list items) => textsOf name items
    | some (.text s) => .ok (s.map ([·]))
    | some _ => .error .notListed
  | _ => .error (.badShape name)

def entriesOf : List (Text × Value) → Except RegistryFault (List (Text × List Text))
  | [] => .ok []
  | (name, value) :: rest =>
    match identifiersOf name value with
    | .error fault => .error fault
    | .ok identifiers => (entriesOf rest).map ((stripNamespace name, identifiers) :: ·)

-- Reads registries from data. Their names lose the default namespace; of two that then are the
-- same the later one counts.
def ofValue : Value → Except RegistryFault Registries
  | .table members => (entriesOf members).map fun entries => ⟨Dict.ofList entries⟩
  | v => .error (.notTable v.kindName)

-- Registries whose absence is worth a warning.
def expected : List Text := ["item", "block"]

def warnings (r : Registries) : List Record :=
  (expected.filter (!r.entries.contains ·)).map fun name =>
    ⟨.warning, .registry,
      "Registry " ++ quote name ++ " missing; its arguments will have no completions"⟩

end Registries

end CommandCompletion
