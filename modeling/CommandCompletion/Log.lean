import CommandCompletion.Text

namespace CommandCompletion

inductive Level
  | debug
  | info
  | warning
  | error
  | critical
deriving DecidableEq, Repr

namespace Level

def name : Level → String
  | debug => "DEBUG"
  | info => "INFO"
  | warning => "WARNING"
  | error => "ERROR"
  | critical => "CRITICAL"

def rank : Level → Nat
  | debug => 0
  | info => 1
  | warning => 2
  | error => 3
  | critical => 4

-- The upper case of a letter. The dotless i has an ASCII letter for its upper case.
def upper : CodePoint → CodePoint
  | .char c => .char (if c = '\u0131' then 'I' else c.toUpper)
  | half => half

-- A level by its name in any case. Other names stand for warnings.
def ofName (name : Text) : Level :=
  let wanted := name.map upper
  ([debug, info, warning, error, critical].find? (·.name = wanted)).getD warning

end Level

-- The part of the program that a record comes from.
inductive Source
  | grammar
  | registry
  | completion
  | loading
  | prompt
deriving DecidableEq, Repr

def Source.name : Source → String
  | grammar => "mccomplete.models.grammar"
  | registry => "mccomplete.models.registry"
  | completion => "mccomplete.services.completion_service"
  | loading => "mccomplete.services.loader_service"
  | prompt => "mccomplete.cli.completer"

-- One line of the log.
structure Record where
  level : Level
  source : Source
  message : Text
deriving DecidableEq, Repr

namespace Record

def text (r : Record) : Text :=
  r.source.name ++ ": " ++ r.message

-- What a log of this level keeps.
def kept (level : Level) (records : List Record) : List Record :=
  records.filter fun r => level.rank ≤ r.level.rank

end Record

end CommandCompletion
