import CommandCompletion.Data.Moment
import CommandCompletion.Json.Reader
import CommandCompletion.Toml.Fault

namespace CommandCompletion.Toml

open Json (isDigit digitsOf)

-- The number of exactly `width` digits at the start of a text.
def scanFixed (width : Nat) (text : List Char) : Option (Nat × List Char) :=
  let digits := text.take width
  if digits.length = width && digits.all isDigit then
    some (Text.ofDigits 10 (digitsOf digits), text.drop width)
  else none

def scanMark (mark : Char) (text : List Char) : Option (List Char) :=
  match text with
  | c :: rest => if c = mark then some rest else none
  | [] => none

-- Two digits for a number from `least` to `most`.
def scanTwo (least most : Nat) (text : List Char) : Option (Nat × List Char) := do
  let (n, rest) ← scanFixed 2 text
  if least ≤ n ∧ n ≤ most then some (n, rest) else none

-- Parts of a second count to six digits; further ones are dropped.
def scanMicroseconds (text : List Char) : Nat × List Char :=
  match text with
  | '.' :: rest =>
    let digits := rest.takeWhile isDigit
    if digits.isEmpty then (0, text)
    else
      let kept := digits.take 6
      (Text.ofDigits 10 (digitsOf kept) * Nat.pow 10 (6 - kept.length), rest.dropWhile isDigit)
  | _ => (0, text)

def scanTime (text : List Char) : Option (TimeOfDay × List Char) := do
  let (hour, rest) ← scanTwo 0 23 text
  let rest ← scanMark ':' rest
  let (minute, rest) ← scanTwo 0 59 rest
  let rest ← scanMark ':' rest
  let (second, rest) ← scanTwo 0 59 rest
  let (microsecond, rest) := scanMicroseconds rest
  some (⟨hour, minute, second, microsecond⟩, rest)

-- The digits of a date, whether or not its month has such a day.
def scanDate (text : List Char) : Option (Date × List Char) := do
  let (year, rest) ← scanFixed 4 text
  let rest ← scanMark '-' rest
  let (month, rest) ← scanTwo 1 12 rest
  let rest ← scanMark '-' rest
  let (day, rest) ← scanTwo 1 31 rest
  some (⟨year, month, day⟩, rest)

def scanHourMinute (text : List Char) : Option (Int × List Char) := do
  let (hour, rest) ← scanTwo 0 23 text
  let rest ← scanMark ':' rest
  let (minute, rest) ← scanTwo 0 59 rest
  some (((hour * 60 + minute : Nat) : Int), rest)

-- The distance from universal time, in minutes.
def scanOffset (text : List Char) : Option Int × List Char :=
  match text with
  | [] => (none, [])
  | c :: rest =>
    if c = 'Z' || c = 'z' then (some 0, rest)
    else if c = '+' || c = '-' then
      match scanHourMinute rest with
      | none => (none, text)
      | some (minutes, rest) => (some (if c = '-' then -minutes else minutes), rest)
    else (none, text)

-- The clock part behind a date. If it is not well formed, the date stands alone.
def scanClock (date : Date) (text : List Char) : Moment × List Char :=
  match text with
  | [] => (.date date, [])
  | c :: rest =>
    if c = 'T' || c = 't' || c = ' ' then
      match scanTime rest with
      | none => (.date date, text)
      | some (time, rest) =>
        let (offset, rest) := scanOffset rest
        (.dateTime date time offset, rest)
    else (.date date, text)

-- A moment at the start of a text, if there is one. A date that no calendar has is refused.
def scanMoment? (text : List Char) : Option (Except Stop (Moment × List Char)) :=
  match scanDate text with
  | some (date, rest) =>
    some <|
      if Moment.isDate date then .ok (scanClock date rest) else .error (.malformed .badDate text)
  | none => (scanTime text).map fun (time, rest) => .ok (.time time, rest)

end CommandCompletion.Toml
