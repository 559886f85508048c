import CommandCompletion.Data.Value
import CommandCompletion.Text.Digit

namespace CommandCompletion.Settings

-- Why a text is no value for a setting.
inductive CoercionFault
  | notBool (key raw : Text)
  | notInt (key raw : Text)
deriving DecidableEq, Repr

def CoercionFault.message : CoercionFault → Text
  | notBool key raw => key ++ " expects a boolean, got " ++ quote raw
  | notInt key raw => key ++ " expects an integer, got " ++ quote raw

def trueWords : List Text := ["1", "true", "yes", "y", "on"]

def falseWords : List Text := ["0", "false", "no", "n", "off"]

-- A text read as a value of the same kind as the default. Only truth values and whole numbers
-- are not texts themselves.
def coerce (raw : Text) (default : Value) (key : Text) : Except CoercionFault Value :=
  match default with
  | .bool _ =>
    let word := raw.trim.asciiLower
    if trueWords.contains word then .ok (.bool true)
    else if falseWords.contains word then .ok (.bool false)
    else .error (.notBool key raw)
  | .int _ =>
    match raw.integer? with
    | some n => .ok (.int n)
    | none => .error (.notInt key raw)
  | _ => .ok (.text raw)

end CommandCompletion.Settings
