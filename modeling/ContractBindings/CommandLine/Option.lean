/-!
# Commands and options

The two commands, the options that they take, and the choices that options offer.
-/

namespace ContractBindings.CommandLine

/-- The commands. -/
inductive Subcommand where
  /-- Makes bindings from artifacts that are there. -/
  | extract
  /-- Compiles first. -/
  | compileAndExtract
  deriving DecidableEq, Repr

namespace Subcommand

/-- The name of a command. -/
def name : Subcommand → String
  | extract => "extract"
  | compileAndExtract => "compile-and-extract"

/-- The command of a name or of its short form. -/
def ofName? (s : String) : Option Subcommand :=
  if s = "extract" then some extract
  else if s = "compile-and-extract" ∨ s = "build" then some compileAndExtract
  else none

end Subcommand

/-- The options that take no value, and at most one of each. -/
inductive Flag where
  | noModule
  | embedBytecode
  | noExport
  | printAbi
  | quiet
  deriving DecidableEq, Repr

namespace Flag

/-- All of them. -/
def all : List Flag := [noModule, embedBytecode, noExport, printAbi, quiet]

/-- The long name, after its dashes. -/
def long : Flag → String
  | noModule => "no-module"
  | embedBytecode => "embed-bytecode"
  | noExport => "no-export"
  | printAbi => "print-abi"
  | quiet => "quiet"

/-- The short name, after its dash. -/
def short? : Flag → Option Char
  | quiet => some 'q'
  | _ => none

/-- The flag as mistakes name it. -/
def usage (f : Flag) : String := "--" ++ f.long

end Flag

/-- The options that take one value. -/
inductive Valued where
  | artifacts
  | outDir
  | color
  | compileCmd
  deriving DecidableEq, Repr

namespace Valued

/-- All of them. -/
def all : List Valued := [artifacts, outDir, color, compileCmd]

/-- The long name, after its dashes. -/
def long : Valued → String
  | artifacts => "artifacts"
  | outDir => "out-dir"
  | color => "color"
  | compileCmd => "compile-cmd"

/-- The short name, after its dash. -/
def short? : Valued → Option Char
  | outDir => some 'o'
  | _ => none

/-- What the value is called. -/
def valueName : Valued → String
  | artifacts | outDir => "DIR"
  | color => "WHEN"
  | compileCmd => "CMD"

/-- The option as mistakes name it. -/
def usage (o : Valued) : String := "--" ++ o.long ++ " <" ++ o.valueName ++ ">"

/-- A command takes the option: only the one that compiles takes a compile command. -/
def belongsTo (s : Subcommand) (o : Valued) : Bool :=
  o != compileCmd || s == .compileAndExtract

end Valued

/-- What takes a value. -/
inductive Argument where
  | contract
  | valued (option : Valued)
  deriving DecidableEq, Repr

/-- The argument as mistakes name it. -/
def Argument.usage : Argument → String
  | contract => "<CONTRACT>"
  | valued option => option.usage

/-- When to use colours. -/
inductive ColorChoice where
  | auto
  | always
  | never
  deriving DecidableEq, Repr

namespace ColorChoice

/-- The name of a choice. -/
def name : ColorChoice → String
  | auto => "auto"
  | always => "always"
  | never => "never"

/-- The choice of a name. -/
def ofName? (s : String) : Option ColorChoice :=
  [auto, always, never].find? (·.name == s)

/-- Colours are used, where `watched` says whether someone reads along at a terminal. -/
def applies (watched : Bool) : ColorChoice → Bool
  | auto => watched
  | always => true
  | never => false

end ColorChoice

/-- An option of either command. -/
inductive Switch where
  | flag (flag : Flag)
  | valued (option : Valued)
  /-- More of the log; it counts. -/
  | verbose
  | help
  deriving DecidableEq, Repr

namespace Switch

/-- The option of a long name, of those that a command takes. -/
def ofLong? (s : Subcommand) (name : String) : Option Switch :=
  if name = "help" then some help
  else
    match Flag.all.find? (·.long == name), Valued.all.find? (·.long == name) with
    | some f, _ => some (flag f)
    | none, some o => if o.belongsTo s then some (valued o) else none
    | none, none => none

/-- The option of a short name, which is the same for both commands. -/
def ofShort? (name : Char) : Option Switch :=
  if name = 'h' then some help
  else if name = 'v' then some verbose
  else
    match Flag.all.find? (·.short? == some name), Valued.all.find? (·.short? == some name) with
    | some f, _ => some (flag f)
    | none, some o => some (valued o)
    | none, none => none

end Switch

end ContractBindings.CommandLine
