import CommandCompletion.Data.Dict
import CommandCompletion.Program.Page
import CommandCompletion.Text.Likeness
import CommandCompletion.Text.Terminal

namespace CommandCompletion.Program

-- Why a command line is no request.
inductive UsageFault
  | unknownOption (name : Text)
  | valueMissing (name : Text)
  | valueUnwanted (name : Text)
  | unknownCommand (name : Text)
  | commandMissing
  | argumentMissing (name : String)
  | argumentsUnwanted (first : Text) (others : List Text)
  | notFile (option path : Text)
  | notLevel (text : Text)
  | notWhole (text : Text)
  | tooShallow (depth : Int)
deriving DecidableEq, Repr

namespace UsageFault

def badValue (option what : Text) : Text :=
  "Invalid value for '" ++ option ++ "': " ++ what

-- The names that may have been meant.
def hint : List Text → Text
  | [] => []
  | [name] => " Did you mean " ++ quote name ++ "?"
  | names => " (Did you mean one of: " ++ Text.join ", " (names.map quote) ++ "?)"

-- The options that may have been meant. Nothing is offered for an option of a single letter.
def optionHint (page : Page) (name : Text) : Text :=
  if ("--" : Text).isPrefixOf name then
    hint (Text.closeTo name (page.allOptions.map fun form => form.name))
  else []

def message (page : Page) : UsageFault → Text
  | unknownOption name => "No such option " ++ quote name ++ "." ++ optionHint page name
  | valueMissing name => "Option " ++ quote name ++ " requires an argument."
  | valueUnwanted name => "Option " ++ quote name ++ " does not take a value."
  | unknownCommand name =>
    "No such command " ++ quote name ++ "." ++
      hint (Text.closeTo name (page.commands.map fun command => command.1))
  | commandMissing => "Missing command."
  | argumentMissing name => "Missing argument '" ++ name ++ "'."
  | argumentsUnwanted first [] => "Got unexpected extra argument (" ++ first ++ ")"
  | argumentsUnwanted first others =>
    "Got unexpected extra arguments (" ++ Text.join " " (first :: others) ++ ")"
  | notFile option path => badValue option ("File " ++ quote path ++ " is a directory.")
  | notLevel text =>
    badValue "--log-level"
      (quote text ++ " is not one of 'debug', 'info', 'warning', 'error'.")
  | notWhole text => badValue "--depth" (quote text ++ " is not a valid integer range.")
  | tooShallow depth => badValue "--depth" (toString depth ++ " is not in the range x>=1.")

-- A fault in the form of an option is told without the usage of the page.
def isFormal : UsageFault → Bool
  | valueMissing _ => true
  | valueUnwanted _ => true
  | _ => false

-- What was written cannot steer the terminal on which the fault is reported.
def report (page : Page) (fault : UsageFault) : List Text :=
  let around : List Text :=
    if fault.isFormal then []
    else [page.usage, "Try '" ++ page.command ++ " --help' for help.", []]
  around ++ [Text.withoutSequences ("Error: " ++ fault.message page)]

end UsageFault

-- The options and the other words of a command line. A repeated option keeps its first place and
-- takes its last value.
structure Scan where
  options : Dict (Option Text) := []
  words : List Text := []
deriving DecidableEq, Repr

namespace Scan

def isOption (word : Text) : Bool :=
  match word with
  | .char '-' :: _ :: _ => true
  | _ => false

-- The name of a long option ends at an equals sign, after which its value stands.
def splitOption (word : Text) : Text × Option Text :=
  (word.takeWhile (· ≠ .char '='), (word.dropWhile (· ≠ .char '=')).tail?)

-- What an unknown option is called. Behind a single dash every letter is an option.
def unknownName (word : Text) : Text :=
  if ("--" : Text).isPrefixOf word then (splitOption word).1 else word.take 2

def form? (page : Page) (name : Text) : Option OptionForm :=
  page.allOptions.find? fun form => name = form.name

-- Reads options up to two dashes, after which there are none. Where options may not follow other
-- words, the first other word ends them too.
def readAll (page : Page) (mixed : Bool) :
    List Text → Except UsageFault (List (Text × Option Text) × List Text)
  | [] => .ok ([], [])
  | word :: rest =>
    if word = "--" then .ok ([], rest)
    else if isOption word then
      let (name, value) := splitOption word
      match form? page name with
      | none => .error (.unknownOption (unknownName word))
      | some form =>
        if form.value.isNone then
          if value.isSome then .error (.valueUnwanted name)
          else
            (readAll page mixed rest).map fun (options, words) => ((name, none) :: options, words)
        else
          match value with
          | some _ =>
            (readAll page mixed rest).map fun (options, words) => ((name, value) :: options, words)
          | none =>
            match rest with
            | [] => .error (.valueMissing name)
            | next :: others =>
              (readAll page mixed others).map fun (options, words) =>
                ((name, some next) :: options, words)
    else if mixed then
      (readAll page mixed rest).map fun (options, words) => (options, word :: words)
    else .ok ([], word :: rest)

def ofWords (page : Page) (mixed : Bool) (words : List Text) : Except UsageFault Scan :=
  (readAll page mixed words).map fun (options, words) => ⟨Dict.ofList options, words⟩

def has (scan : Scan) (option : Text) : Bool :=
  scan.options.contains option

def value? (scan : Scan) (option : Text) : Option Text :=
  (scan.options.get? option).join

end Scan

end CommandCompletion.Program
