import Telemetry.Path

/-!
# Arguments of the command line

A command line names one command and the configuration document it is about, or asks for help or for
the version.

## Main definitions

- `Command` — what can be done with a document
- `Request` — what a command line asks for
- `UsageError` — the ways in which a command line asks for nothing
- `Request.parse` — the request of a list of arguments

## Design notes

Arguments are read from left to right. A question for help is answered where it stands, and what is
behind it does not matter; whether the document is named, and only once, is settled at the end.
-/

namespace Telemetry

/-- What can be done with a configuration document. -/
inductive Command
  /-- List the namespace patterns that it can produce. -/
  | discover
  /-- Produce its metrics. -/
  | collect
  deriving DecidableEq, Repr

/-- The command of a name. -/
def Command.ofName? (name : Text) : Option Command :=
  if name = "discover".toList then some .discover
  else if name = "collect".toList then some .collect
  else none

/-- What a command line asks for. -/
inductive Request
  | run (command : Command) (config : Path)
  | help
  | version
  deriving DecidableEq, Repr

/-- The ways in which a command line asks for nothing. -/
inductive UsageError
  | missingCommand
  | unknownCommand (name : Text)
  | unexpectedArgument (argument : Text)
  | missingConfig
  /-- The option for the document stands there without a value. -/
  | missingValue
  | repeatedConfig
  deriving DecidableEq, Repr

/-- The wording of an error. -/
def UsageError.message : UsageError → String
  | missingCommand => "a command is required"
  | unknownCommand name => "there is no command '" ++ String.ofList name ++ "'"
  | unexpectedArgument a => "the argument '" ++ String.ofList a ++ "' was not expected"
  | missingConfig => "the option '--config' is required"
  | missingValue => "the option '--config' needs a value"
  | repeatedConfig => "the option '--config' was given more than once"

-- ════════════════════════════════════════════════════════════════════════
-- Options
-- ════════════════════════════════════════════════════════════════════════

/-- One argument, as far as its form goes. -/
inductive Argument
  /-- Two hyphens: no option follows. -/
  | endOfOptions
  /-- A name behind two hyphens, and what is behind the equals sign after it. -/
  | long (name : Text) (value : Option Text)
  /-- A letter behind one hyphen, and what is behind it. -/
  | short (letter : Char) (rest : Text)
  | plain (text : Text)
  deriving DecidableEq, Repr

/-- The form of an argument. A lone hyphen is no option. -/
def Argument.ofText : Text → Argument
  | ['-', '-'] => endOfOptions
  | '-' :: '-' :: t =>
    match t.dropWhile (· != '=') with
    | [] => long t none
    | _ :: value => long (t.takeWhile (· != '=')) (some value)
  | '-' :: c :: t => short c t
  | t => plain t

/-- The value that is written right behind the letter of an option; an equals sign between them does
    not count. -/
def attachedValue? : Text → Option Text
  | [] => none
  | '=' :: value => some value
  | value => some value

/-- What is known of the option for the document: the values given so far, the last one first, and
    whether the option was the last argument and waits for its value. -/
structure ConfigOption where
  values : List (Option Text)
  waiting : Bool

namespace ConfigOption

/-- Nothing has been given. -/
def none : ConfigOption := ⟨[], false⟩

/-- The option with its value, or without one so far. -/
def give (o : ConfigOption) (value : Option Text) : ConfigOption :=
  ⟨value :: o.values, value.isNone⟩

/-- The value of the option, which has to be given exactly once. -/
def result (o : ConfigOption) : Except UsageError Path :=
  match o.values with
  | [] => .error .missingConfig
  | [some value] => .ok value
  | [Option.none] => .error .missingValue
  | _ => .error .repeatedConfig

end ConfigOption

-- ════════════════════════════════════════════════════════════════════════
-- Requests
-- ════════════════════════════════════════════════════════════════════════

namespace Request

/-- The request of the arguments behind the name of a command. -/
def parseCommand (command : Command) (config : ConfigOption) :
    List Text → Except UsageError Request
  | [] => config.result.map (run command)
  | a :: as =>
    match Argument.ofText a with
    | .endOfOptions =>
      match as with
      | [] => config.result.map (run command)
      | b :: _ => .error (.unexpectedArgument b)
    | .long name value =>
      if name = "config".toList then parseCommand command (config.give value) as
      else if name = "help".toList ∧ value = none then .ok help
      else .error (.unexpectedArgument a)
    | .short 'c' rest => parseCommand command (config.give (attachedValue? rest)) as
    | .short 'h' _ => .ok help
    | .short .. => .error (.unexpectedArgument a)
    | .plain value =>
      if config.waiting then
        parseCommand command ⟨some value :: config.values.drop 1, false⟩ as
      else .error (.unexpectedArgument a)

/-- The request of the arguments behind a question for help, which may name one command. -/
def parseHelp : List Text → Except UsageError Request
  | [] => .ok help
  | [name] =>
    if name = "help".toList ∨ (Command.ofName? name).isSome then .ok help
    else .error (.unknownCommand name)
  | _ :: a :: _ => .error (.unexpectedArgument a)

/-- The request of a list of arguments. -/
def parse : List Text → Except UsageError Request
  | [] => .error .missingCommand
  | a :: as =>
    match Argument.ofText a with
    | .endOfOptions => .error .missingCommand
    | .long name value =>
      if name = "help".toList ∧ value = none then .ok help
      else if name = "version".toList ∧ value = none then .ok version
      else .error (.unexpectedArgument a)
    | .short 'h' _ => .ok help
    | .short 'V' _ => .ok version
    | .short .. => .error (.unexpectedArgument a)
    | .plain name =>
      match Command.ofName? name with
      | some command => parseCommand command .none as
      | none => if name = "help".toList then parseHelp as else .error (.unknownCommand name)

end Request

end Telemetry
