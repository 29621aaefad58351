import ContractBindings.Text.Blank

/-!
# Commands

A program to run with its arguments. A command line is cut at its blanks and nowhere else: quotes
mean nothing in it.
-/

namespace ContractBindings.Compile

/-- A command. -/
structure Command where
  program : String
  args : List String := []
  /-- The directory in which it runs, if that is not the current one. -/
  directory : Option String := none
  deriving DecidableEq, Repr

namespace Command

/-- The command that compiles contracts unless another one is given. -/
def usual : Command := { program := "npx", args := ["hardhat", "compile"] }

/-- The command of a command line, unless that is blank. -/
def ofLine? (line : String) : Option Command :=
  match Text.words line with
  | [] => none
  | program :: args => some { program, args }

/-- The program and the arguments, with a space between each two. -/
def text (c : Command) : String :=
  String.intercalate " " (c.program :: c.args)

end Command

end ContractBindings.Compile
