import ContractBindings.CommandLine.Help
import ContractBindings.Text.Terminal

/-!
# Arguments that cannot be used

Why reading the arguments stopped, and what is said about it. Asking for help stops the reading
too, and is no mistake. An argument is shown without what would steer a terminal.
-/

namespace ContractBindings.CommandLine

/-- The reasons for which the reading of arguments stops. -/
inductive Usage where
  /-- Help was asked for. -/
  | help (topic : Topic)
  /-- There were no arguments. -/
  | nothing
  /-- There were options and no command. -/
  | missingSubcommand
  /-- A command that is none. -/
  | unknownSubcommand (name : String)
  /-- The contract was not named. -/
  | missingContract
  /-- An argument that nothing takes. -/
  | unknownArgument (text : String)
  /-- An argument without the value that it needs. -/
  | missingValue (argument : Argument)
  /-- A colour choice that is none. -/
  | badColor (value : String)
  /-- A compile command without a word in it. -/
  | blankCommand (value : String)
  /-- An argument that was given before. -/
  | repeatedArgument (argument : String)
  /-- A value for an option that takes none. -/
  | unexpectedValue (option value : String)
  deriving DecidableEq, Repr

namespace Usage

/-- A text up to its first line end. -/
def firstLine (s : String) : String :=
  let line := s.toList.takeWhile (· ≠ '\n')
  if line.length < s.length && line.getLast? == some '\r' then String.ofList line.dropLast
  else String.ofList line

/-- The whole wording of the first sentence about a mistake, which can hold line ends; `clean` takes
from an argument what would steer a terminal. -/
def sentence (clean : String → String) : Usage → String
  | help topic => topic.text
  | nothing => Topic.program.text
  | missingSubcommand => "error: 'abibind' requires a subcommand but one was not provided"
  | unknownSubcommand name => "error: unrecognized subcommand '" ++ clean name ++ "'"
  | missingContract => "error: the following required arguments were not provided:"
  | unknownArgument text => "error: unexpected argument '" ++ clean text ++ "' found"
  | missingValue argument =>
    "error: a value is required for '" ++ argument.usage ++ "' but none was supplied"
  | badColor value =>
    "error: invalid value '" ++ clean value ++ "' for '" ++ Valued.color.usage ++ "'"
  | blankCommand value =>
    "error: invalid value '" ++ clean value ++ "' for '" ++ Valued.compileCmd.usage ++
      "': command cannot be blank"
  | repeatedArgument argument =>
    "error: the argument '" ++ argument ++ "' cannot be used multiple times"
  | unexpectedValue option value =>
    "error: unexpected value '" ++ clean value ++ "' for '" ++ option ++
      "' found; no more were expected"

/-- It is a text of help, and no mistake in an argument. -/
def isHelp : Usage → Bool
  | help _ | nothing => true
  | _ => false

/-- What is said: a whole text of help, or the first line about a mistake. -/
def wording (clean : String → String) (u : Usage) : String :=
  if u.isHelp then u.sentence clean else firstLine (u.sentence clean)

/-- The message about what stopped the reading. -/
def message (u : Usage) : String := u.wording Text.visible

/-- The message as the program writes it. -/
def complaint (u : Usage) : String := u.wording Text.printed

/-- The exit code: only help that was asked for is a success. -/
def exitCode : Usage → Nat
  | help _ => 0
  | _ => 2

end Usage

end ContractBindings.CommandLine
