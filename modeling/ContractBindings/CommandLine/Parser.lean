import ContractBindings.CommandLine.Usage
import ContractBindings.Text.Blank

/-!
# Reading arguments

The arguments are read from left to right. A value waits until it is known that nothing else is
wrong with the argument after it: an unknown argument is reported before a bad value that waits.

* `State`: what has been read of a command's arguments.
* `step`: one more argument.
* `parse`: all arguments of the program.
-/

namespace ContractBindings.CommandLine

/-- What a command was given. -/
structure Given where
  contract : Option String := none
  /-- The values of options, each at most once. -/
  values : List (Valued × String) := []
  flags : List Flag := []
  /-- How often more of the log was asked for. -/
  verbose : Nat := 0
  deriving DecidableEq, Repr

/-- The most that the count of an option can be. -/
def maxCount : Nat := 255

/-- One more than a count, up to the most that it can be. -/
def countUp (n : Nat) : Nat := min (n + 1) maxCount

/-- What has been read of a command's arguments. -/
structure State where
  command : Subcommand
  given : Given := {}
  /-- An argument that has been named, with its value once there is one. -/
  pending : Option (Argument × Option String) := none
  /-- The next argument may be the value of the pending option. -/
  awaiting : Bool := false
  /-- After `--`, which makes every argument a plain one. -/
  trailing : Bool := false
  /-- There has been a plain argument. -/
  named : Bool := false

/-! ## Values -/

/-- What is wrong with a value, if anything is. -/
def Argument.refuses (a : Argument) (value : String) : Option Usage :=
  match a with
  | .valued .compileCmd =>
    if (Text.trim value).isEmpty then some (.blankCommand value) else none
  | .valued .color =>
    if value.isEmpty then some (.missingValue a)
    else if (ColorChoice.ofName? value).isNone then some (.badColor value)
    else none
  | _ => if value.isEmpty then some (.missingValue a) else none

/-- Gives a value to an argument. -/
def Given.withValue (g : Given) (a : Argument) (value : String) : Except Usage Given :=
  match a.refuses value, a with
  | some u, .contract => .error u
  | none, .contract => .ok { g with contract := some value }
  | refusal, .valued o =>
    if (g.values.lookup o).isSome then .error (.repeatedArgument o.usage)
    else
      match refusal with
      | some u => .error u
      | none => .ok { g with values := g.values ++ [(o, value)] }

/-- Gives a flag. -/
def Given.withFlag (g : Given) (f : Flag) : Except Usage Given :=
  if f ∈ g.flags then .error (.repeatedArgument f.usage) else .ok { g with flags := g.flags ++ [f] }

/-- Settles what is pending. -/
def State.settled (s : State) : Except Usage State :=
  match s.pending with
  | none => .ok s
  | some (a, none) => .error (.missingValue a)
  | some (a, some value) => (s.given.withValue a value).map fun given =>
    { s with given, pending := none }

/-! ## Options -/

/-- Takes an option without a value. -/
def State.switched (s : State) (x : Switch) : Except Usage State :=
  match s.settled with
  | .error u => .error u
  | .ok s =>
    match x with
    | .flag f => (s.given.withFlag f).map fun given => { s with given, awaiting := false }
    | .valued o => .ok { s with pending := some (.valued o, none), awaiting := true }
    | .verbose =>
      .ok { s with given := { s.given with verbose := countUp s.given.verbose }, awaiting := false }
    | .help => .error (.help (.command s.command))

/-- Takes an option together with its value. -/
def State.assigned (s : State) (o : Valued) (value : String) : Except Usage State :=
  match s.settled with
  | .error u => .error u
  | .ok s => (s.given.withValue (.valued o) value).map fun given =>
    { s with given, awaiting := false }

/-- Takes a long option; `value` is what stands after an equals sign. -/
def State.long (s : State) (name : String) (value : Option String) : Except Usage State :=
  match Switch.ofLong? s.command name, value with
  | none, _ => .error (.unknownArgument ("--" ++ name))
  | some (.valued o), some value => s.assigned o value
  | some x, none => s.switched x
  | some _, some value => .error (.unexpectedValue ("--" ++ name) value)

/-- Takes short options that stand together. The rest after an option with a value is its value,
and an equals sign in between does not count. -/
def State.short (s : State) : List Char → Except Usage State
  | [] => .ok s
  | c :: rest =>
    match Switch.ofShort? c with
    | none => .error (.unknownArgument ("-" ++ String.singleton c))
    | some (.valued o) =>
      match rest with
      | [] => s.switched (.valued o)
      | '=' :: value => s.assigned o (String.ofList value)
      | value => s.assigned o (String.ofList value)
    | some x =>
      match s.switched x with
      | .error u => .error u
      | .ok s => s.short rest

/-! ## Arguments -/

/-- The forms that an argument can have. -/
inductive Form where
  /-- `--` -/
  | separator
  /-- `--name` or `--name=value` -/
  | long (name : String) (value : Option String)
  /-- `-abc` -/
  | short (names : List Char)
  /-- Anything else, a single dash included. -/
  | plain

/-- The name before the first equals sign, and the value after it if there is one. -/
def splitName (cs : List Char) : String × Option String :=
  let name := cs.takeWhile (· ≠ '=')
  (String.ofList name,
    match cs.dropWhile (· ≠ '=') with
    | [] => none
    | _ :: value => some (String.ofList value))

/-- The form of an argument. -/
def Form.of (argument : String) : Form :=
  match argument.toList with
  | ['-', '-'] => .separator
  | '-' :: '-' :: cs => .long (splitName cs).1 (splitName cs).2
  | '-' :: c :: cs => .short (c :: cs)
  | _ => .plain

/-- Takes an argument that is no option: the value of an option, or the contract. -/
def State.plain (s : State) (argument : String) : Except Usage State :=
  match s.pending with
  | some (a, none) =>
    if s.awaiting then .ok { s with pending := some (a, some argument), awaiting := false }
    else if s.named then .error (.unknownArgument argument)
    else .error (.missingValue a)
  | _ =>
    if s.named then .error (.unknownArgument argument)
    else
      s.settled.map fun s =>
        { s with pending := some (.contract, some argument), named := true, awaiting := false }

/-- Takes one more argument of a command. -/
def State.step (s : State) (argument : String) : Except Usage State :=
  if s.trailing then s.plain argument
  else
    match Form.of argument with
    | .separator => .ok { s with trailing := true, awaiting := false }
    | .long name value => s.long name value
    | .short names => s.short names
    | .plain => s.plain argument

/-- Takes all arguments of a command. -/
def State.steps (s : State) : List String → Except Usage State
  | [] => .ok s
  | argument :: rest =>
    match s.step argument with
    | .error u => .error u
    | .ok s => s.steps rest

/-! ## Commands -/

/-- A command with everything that it was given. -/
structure Invocation where
  command : Subcommand
  contract : String
  artifacts : String := "artifacts"
  outDir : String := "abi"
  module : Bool := true
  embedBytecode : Bool := false
  exported : Bool := true
  printAbi : Bool := false
  quiet : Bool := false
  color : ColorChoice := .auto
  /-- The command that compiles, for the command that does. -/
  compileCmd : Option String := none
  /-- How often more of the log was asked for. -/
  verbose : Nat := 0
  deriving DecidableEq, Repr

/-- The compile command unless another one is given. -/
def usualCompileCmd : String := "npx hardhat compile"

/-- What a command was given, with what holds where nothing was. A count of its own hides the
count that stands before the command. -/
def Given.invocation (g : Given) (command : Subcommand) (contract : String) (before : Nat) :
    Invocation where
  command := command
  contract := contract
  artifacts := (g.values.lookup .artifacts).getD "artifacts"
  outDir := (g.values.lookup .outDir).getD "abi"
  module := .noModule ∉ g.flags
  embedBytecode := .embedBytecode ∈ g.flags
  exported := .noExport ∉ g.flags
  printAbi := .printAbi ∈ g.flags
  quiet := .quiet ∈ g.flags
  color := ((g.values.lookup .color).bind ColorChoice.ofName?).getD .auto
  compileCmd :=
    match command with
    | .extract => none
    | .compileAndExtract => some ((g.values.lookup .compileCmd).getD usualCompileCmd)
  verbose := if g.verbose = 0 then before else g.verbose

/-- Reads the arguments of a command; `before` counts how often more of the log was asked for
before it. -/
def parseCommand (command : Subcommand) (before : Nat) (arguments : List String) :
    Except Usage Invocation :=
  match (State.steps { command } arguments).bind State.settled with
  | .error u => .error u
  | .ok s =>
    match s.given.contract with
    | none => .error .missingContract
    | some contract => .ok (s.given.invocation command contract before)

/-- What help is about, given the names after it. -/
def helpTopic : List String → Usage
  | [] => .help .program
  | name :: rest =>
    match Subcommand.ofName? name, rest with
    | some command, [] => .help (.command command)
    | none, [] => if name = "help" then .help .help else .unknownSubcommand name
    | some _, other :: _ => .unknownSubcommand other
    | none, other :: _ => .unknownSubcommand (if name = "help" then other else name)

/-- Takes short options before the command, and counts on. -/
def shortBefore (count : Nat) : List Char → Except Usage Nat
  | [] => .ok count
  | 'v' :: rest => shortBefore (countUp count) rest
  | 'h' :: _ => .error (.help .program)
  | c :: _ => .error (.unknownArgument ("-" ++ String.singleton c))

/-- Reads arguments up to the command and the command's own; `count` says how often more of the log
was asked for so far. -/
def parseFrom (count : Nat) : List String → Except Usage Invocation
  | [] => .error (if count = 0 then .nothing else .missingSubcommand)
  | argument :: rest =>
    match Subcommand.ofName? argument with
    | some command => parseCommand command count rest
    | none =>
      if argument = "help" then .error (helpTopic rest)
      else
        match Form.of argument with
        | .separator =>
          match rest with
          | [] => .error (if count = 0 then .nothing else .missingSubcommand)
          | next :: _ =>
            if (Subcommand.ofName? next).isSome ∨ next = "help" then .error (.unknownArgument next)
            else .error (.unknownSubcommand next)
        | .long name value =>
          match name, value with
          | "help", none => .error (.help .program)
          | "help", some value => .error (.unexpectedValue "--help" value)
          | name, _ => .error (.unknownArgument ("--" ++ name))
        | .short names =>
          match shortBefore count names with
          | .error u => .error u
          | .ok count => parseFrom count rest
        | .plain => .error (.unknownSubcommand argument)

/-- Reads the arguments of the program. -/
def parse (arguments : List String) : Except Usage Invocation :=
  parseFrom 0 arguments

end ContractBindings.CommandLine
