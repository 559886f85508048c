import CommandCompletion.Line.Trace

namespace CommandCompletion

-- A proposed edit: `text` replaces as many characters before the cursor as `back` says.
structure Edit where
  text : Text
  back : Nat
  note : Text
deriving DecidableEq, Repr

namespace Editor

-- The part of the current line that stands before the cursor.
def lineBefore (text : Text) (cursor : Nat) : Text :=
  ((text.take cursor).reverse.takeWhile (· ≠ .char '\n')).reverse

-- The commands of the prompt that go on from the typed text; each replaces all of it.
def localEdits (commands : Dict Text) (typed : Text) : List Edit :=
  (commands.filter fun (command, _) => typed.isPrefixOf command).map fun (command, note) =>
    ⟨command, typed.length, note⟩

-- A candidate without documentation is described by its kind.
def describe (c : Candidate) : Text :=
  match c.documentation with
  | some documentation => if documentation = "" then c.kind.words else documentation
  | none => c.kind.words

-- The edits for the line before the cursor, its indentation apart. A slash starts a command of
-- the prompt. Where redirects run in a circle there is nothing to propose.
def edits (s : CommandSet) (commands : Dict Text) (line : Text) : List Edit :=
  let typed := Text.trimStart line
  if typed.head? = some '/' then localEdits commands typed
  else
    match s.parse typed with
    | .error _ => []
    | .ok parse =>
      match s.suggest parse with
      | .error _ => []
      | .ok candidates =>
        candidates.map fun c => ⟨c.label, parse.remainder.length, describe c⟩

-- The edits at a cursor of a text.
def complete (s : CommandSet) (commands : Dict Text) (text : Text) (cursor : Nat) :
    List Edit :=
  edits s commands (lineBefore text cursor)

def unavailable (fault : RedirectFault) : Record :=
  ⟨.warning, .prompt, "Completion unavailable: " ++ fault.message⟩

def records (s : CommandSet) (line : Text) : List Record :=
  let typed := Text.trimStart line
  if typed.head? = some '/' then []
  else
    s.parseRecords typed ++
      match s.parse typed with
      | .error fault => [unavailable fault]
      | .ok parse =>
        parse.tip.records ++
          match s.suggest parse with
          | .error fault => [unavailable fault]
          | .ok _ => []

end Editor

end CommandCompletion
