import CommandCompletion.Data.Dict
import CommandCompletion.Data.Moment
import CommandCompletion.Decimal.Shortest
import CommandCompletion.Text.Digit
import CommandCompletion.Text.Quoted

namespace CommandCompletion

-- What data files and settings hold. Moments come from settings only, nulls from data only.
inductive Value
  | null
  | bool (value : Bool)
  | int (value : Int)
  | double (value : Double)
  | text (value : Text)
  | moment (value : Moment)
  | list (items : List Value)
  | table (members : List (Text × Value))
deriving Repr

namespace Value

-- Whether a value counts as given: nulls, zeros and everything empty do not.
def isGiven : Value → Bool
  | null => false
  | bool b => b
  | int n => n ≠ 0
  | double d => !d.isZero
  | text s => !s.isEmpty
  | moment _ => true
  | list items => !items.isEmpty
  | table members => !members.isEmpty

-- Whole numbers of more digits than these are not written.
def isLongNumber (n : Int) : Bool :=
  Nat.pow 10 Text.maxDigits ≤ n.natAbs

mutual

-- Whether a number that is not written stands anywhere in a value.
def hasLong : Value → Bool
  | int n => isLongNumber n
  | list items => anyLong items
  | table members => memberLong members
  | _ => false

def anyLong : List Value → Bool
  | [] => false
  | v :: rest => hasLong v || anyLong rest

def memberLong : List (Text × Value) → Bool
  | [] => false
  | (_, v) :: rest => hasLong v || memberLong rest

end

-- The members of a table by name; other values have none.
def get? (v : Value) (key : Text) : Option Value :=
  match v with
  | table members => Dict.get? members key
  | _ => none

-- The names that messages give to the kinds of values.
def kindName : Value → String
  | null => "NoneType"
  | bool _ => "bool"
  | int _ => "int"
  | double _ => "float"
  | text _ => "str"
  | moment (.date _) => "date"
  | moment (.time _) => "time"
  | moment (.dateTime _ _ _) => "datetime"
  | list _ => "list"
  | table _ => "dict"

mutual

-- The form in which messages and the settings listing show a value.
def shown : Value → Text
  | null => "None"
  | bool b => if b then "True" else "False"
  | int n => toString n
  | double d => d.text
  | text s => quote s
  | moment m => m.shown
  | list items => "[" ++ shownItems items ++ "]"
  | table members => "\x7b" ++ shownMembers members ++ "\x7d"

def shownItems : List Value → Text
  | [] => ""
  | [v] => shown v
  | v :: rest => shown v ++ ", " ++ shownItems rest

def shownMembers : List (Text × Value) → Text
  | [] => ""
  | [(key, v)] => quote key ++ ": " ++ shown v
  | (key, v) :: rest => quote key ++ ": " ++ shown v ++ ", " ++ shownMembers rest

end

end Value

end CommandCompletion
