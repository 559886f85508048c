namespace CommandCompletion

structure Date where
  year : Nat
  month : Nat
  day : Nat
deriving DecidableEq, Repr

structure TimeOfDay where
  hour : Nat
  minute : Nat
  second : Nat
  microsecond : Nat
deriving DecidableEq, Repr

-- A point of the calendar or the clock. An offset from universal time counts minutes.
inductive Moment
  | date (date : Date)
  | time (time : TimeOfDay)
  | dateTime (date : Date) (time : TimeOfDay) (offset : Option Int)
deriving DecidableEq, Repr

namespace Moment

def isLeapYear (year : Nat) : Bool :=
  year % 4 = 0 && (year % 100 ≠ 0 || year % 400 = 0)

def daysInMonth (year month : Nat) : Nat :=
  if month = 2 then (if isLeapYear year then 29 else 28)
  else if [4, 6, 9, 11].contains month then 30
  else 31

-- The calendar starts with the year one.
def isDate (d : Date) : Bool :=
  1 ≤ d.year && 1 ≤ d.month && d.month ≤ 12 && 1 ≤ d.day && d.day ≤ daysInMonth d.year d.month

def digits (width n : Nat) : String :=
  let text := toString n
  String.ofList (List.replicate (width - text.length) '0') ++ text

def dateText (d : Date) : String :=
  digits 4 d.year ++ "-" ++ digits 2 d.month ++ "-" ++ digits 2 d.day

-- Parts of a second are written with all six digits or not at all.
def timeText (t : TimeOfDay) : String :=
  digits 2 t.hour ++ ":" ++ digits 2 t.minute ++ ":" ++ digits 2 t.second ++
    (if t.microsecond = 0 then "" else "." ++ digits 6 t.microsecond)

def offsetText (minutes : Int) : String :=
  (if minutes < 0 then "-" else "+") ++ digits 2 (minutes.natAbs / 60) ++ ":" ++
    digits 2 (minutes.natAbs % 60)

def text : Moment → String
  | .date d => dateText d
  | .time t => timeText t
  | .dateTime d t offset =>
    dateText d ++ " " ++ timeText t ++ (match offset with | none => "" | some m => offsetText m)

-- The numbers of a clock reading: seconds and their parts are left out from the end while zero.
def timeNumbers (t : TimeOfDay) : List Nat :=
  if t.microsecond ≠ 0 then [t.hour, t.minute, t.second, t.microsecond]
  else if t.second ≠ 0 then [t.hour, t.minute, t.second]
  else [t.hour, t.minute]

def listed (numbers : List Nat) : String :=
  ", ".intercalate (numbers.map toString)

-- An offset is shown as a span of whole days and a remainder of seconds that is not negative.
def offsetShown (minutes : Int) : String :=
  if minutes = 0 then "datetime.timezone.utc"
  else
    let seconds := minutes * 60 % 86400
    let days := if minutes < 0 then "days=-1, " else ""
    "datetime.timezone(datetime.timedelta(" ++ days ++ "seconds=" ++ toString seconds ++ "))"

-- The form in which a settings listing shows a moment.
def shown : Moment → String
  | .date d => "datetime.date(" ++ listed [d.year, d.month, d.day] ++ ")"
  | .time t => "datetime.time(" ++ listed (timeNumbers t) ++ ")"
  | .dateTime d t offset =>
    "datetime.datetime(" ++ listed ([d.year, d.month, d.day] ++ timeNumbers t) ++
      (match offset with | none => "" | some m => ", tzinfo=" ++ offsetShown m) ++ ")"

end Moment

end CommandCompletion
