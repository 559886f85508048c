import CommandCompletion.Data.Value
import CommandCompletion.Identifier

namespace CommandCompletion

-- How a candidate is shown; nothing else depends on it.
inductive CandidateKind
  | keyword
  | enumValue
  | literalValue
deriving DecidableEq, Repr

def CandidateKind.name : CandidateKind → String
  | keyword => "keyword"
  | enumValue => "enum_value"
  | literalValue => "literal_value"

-- The name in plain words.
def CandidateKind.words : CandidateKind → String
  | keyword => "keyword"
  | enumValue => "enum value"
  | literalValue => "literal value"

-- One proposal for the text at the cursor. Typing a commit character accepts it.
structure Candidate where
  label : Text
  kind : CandidateKind
  documentation : Option Text := none
  commitCharacters : List Text := []
deriving DecidableEq, Repr

namespace Candidate

-- Whether the label goes on from the typed text. While no namespace is typed, that of the label
-- may be left out.
def extends? (c : Candidate) (typed : Text) : Bool :=
  if typed.isPrefixOf c.label then true
  else if typed.contains ':' then false
  else
    let bare := stripNamespace c.label
    bare ≠ c.label && typed.isPrefixOf bare

-- Characters that are there already are not added again.
def addCommitCharacters (c : Candidate) (characters : List Text) : Candidate :=
  { c with
    commitCharacters :=
      c.commitCharacters ++ characters.filter (!c.commitCharacters.contains ·) }

def toValue (c : Candidate) : Value :=
  .table [("label", .text c.label), ("kind", .text c.kind.name),
    ("documentation", match c.documentation with | none => .null | some s => .text s),
    ("commit_characters", .list (c.commitCharacters.map .text))]

end Candidate

end CommandCompletion
