import ContractBindings.Process.Program
import ContractBindings.Shell.Source

/-!
# Sessions

What a shell knows while it carries out a script: variables, functions, options, traps and jobs, and
the machine on which it runs. `Sh` are the steps of a shell, which can put an end to it.
-/

namespace ContractBindings.Shell

open Process

/-- A variable. Without a value it only has the properties. -/
structure Variable where
  value : Option String
  /-- Programs that are started get it. -/
  exported : Bool := false
  /-- It keeps its value. -/
  fixed : Bool := false

/-- A program that was found under a name. -/
structure Found where
  name : String
  path : String
  /-- The shell has gone to another directory since, so that it is looked for again. -/
  stale : Bool := false

/-- A command that runs beside the shell. It is put off until it would be over. -/
structure Job where
  number : Nat
  /-- Its place among the jobs, from one on. -/
  place : Nat
  /-- The time at which it was begun. -/
  since : Nat
  /-- Runs it in a world. -/
  run : World → World × Ending
  /-- The time at which it would be over, once that is known. -/
  due : Option Nat := none
  /-- How it ended, once that is known. -/
  ending : Option Ending := none
  /-- The shell has waited for something else since it ended. -/
  isNoted : Bool := false
  /-- The shell has waited for it, so that its place can be taken. -/
  isAwaited : Bool := false

/-- Runs a job from the time at which it was begun. -/
def Job.runSince (job : Job) (world : World) : World × Ending :=
  job.run { world with clock := job.since }

/-- Up to when commands beside the shell go on. -/
inductive Until where
  /-- Up to now. -/
  | now
  /-- Up to the moment that it takes to start a program. -/
  | soon
  /-- Up to a time. -/
  | time (clock : Nat)
  /-- Up to their ends. -/
  | ever

/-- Something at a time is not after the end. -/
def Until.covers (clock due : Nat) : Until → Bool
  | .now => due ≤ clock
  | .soon => due ≤ clock + 1
  | .time last => due ≤ last
  | .ever => true

/-- What is being left, command by command. -/
inductive Skip where
  | nothing
  /-- A number of loops, of which the last goes on with its next round if `continues`. -/
  | loops (count : Nat) (continues : Bool)
  /-- A function, or a script that was read by a command. -/
  | function
  deriving DecidableEq

/-- Why a shell does not go on. -/
inductive Halt where
  /-- It leaves, with its status. -/
  | leave
  /-- Something is wrong, and was complained about. -/
  | fault
  /-- Its process is over. -/
  | ended (ending : Ending)

/-- What a function puts back when it is left. -/
inductive Former where
  | value (name : String) (former : Option Variable)
  | options (letters : List Char)

/-- A shell. -/
structure Session where
  machine : Machine
  /-- The name under which it was called. -/
  name : String := "sh"
  args : List String := []
  /-- The number of the process of the outermost shell. -/
  process : Nat := 0
  parameters : List (String × Variable) := []
  functions : List (String × Script) := []
  aliases : List (String × String) := []
  /-- The documents in the scripts that have been read. -/
  documents : Array Word := #[]
  /-- The letters of the options that are on. -/
  options : List Char := []
  /-- The status of the last command. -/
  status : Nat := 0
  /-- The status of the last command of which the output was taken. -/
  innerStatus : Nat := 0
  /-- The line of the command. -/
  line : Nat := 1
  /-- The line up to which the script has been read. -/
  readLine : Nat := 1
  /-- The command in whose name complaints are made. -/
  command : Option String := none
  /-- How many loops are around the command. -/
  loops : Nat := 0
  skip : Skip := .nothing
  /-- What is done on a signal; zero stands for the end of the shell. -/
  traps : List (Nat × String) := []
  /-- What the functions around the command put back, the innermost first. -/
  formers : List (List Former) := []
  /-- The path of the directory in which it works, as it was entered. -/
  place : String := "/"
  /-- The programs that have been found, the first first. -/
  found : List Found := []
  /-- The limits that have been set, by their letters. -/
  limits : List (Char × Nat) := []
  jobs : List Job := []
  lastJob : Option Nat := none
  /-- The argument at which options are looked for next, and the place in it. -/
  optionSpot : Nat × Option Nat := (1, none)
  /-- The status that counts while something is done on a signal. -/
  statusBefore : Option Nat := none
  /-- What begins a trace is being expanded, which is not traced itself. -/
  traces : Bool := false

/-- The steps of a shell. -/
abbrev Sh := ExceptT Halt (StateM Session)

namespace Sh

/-- Carries out the steps of a program, which may end with a status. -/
def act {α : Type} (steps : Act α) : Sh (Except Nat α) := do
  let s ← get
  let (result, machine) := steps.run.run s.machine
  set { s with machine }
  return result

/-- Carries out steps that do not end the program. -/
def carry {α : Type} [Inhabited α] (steps : Act α) : Sh α := do
  match ← act steps with
  | .ok a => return a
  | .error _ => return default

/-- Says something. -/
def say (text : String) : Sh Unit := carry (Act.say text)

/-- Changes what the shell process has for itself. -/
def changeContext (f : Context → Context) : Sh Unit :=
  modify fun s => { s with machine := { s.machine with context := f s.machine.context } }

/-- Complains about something, with the line and the command. -/
def warn (text : String) : Sh Unit := do
  let s ← get
  let command := s.command.elim "" fun c => c ++ ": "
  carry (Act.complain (s.name ++ ": " ++ toString s.line ++ ": " ++ command ++ text))

/-- Complains about something with which the shell cannot go on. -/
def fault {α : Type} (text : String) : Sh α := do
  modify fun s => { s with status := 2 }
  carry Act.sendHeld
  warn text
  throw .fault

/-- The option with a letter is on. -/
def isOn (letter : Char) : Sh Bool := return (← get).options.contains letter

/-- Sets the status. -/
def setStatus (status : Nat) : Sh Unit := modify fun s => { s with status }

/-! ## Variables -/

/-- The value of a variable with a name. -/
def lookup? (name : String) : Sh (Option String) := do
  return ((← get).parameters.lookup name).bind (·.value)

/-- The first characters by which fields are split. -/
def usualSeparators : String := " \t\n"

/-- The characters by which fields are split. -/
def separators : Sh String := return (← lookup? "IFS").getD usualSeparators

/-- Puts a variable back. -/
def restore (name : String) (former : Option Variable) : Sh Unit :=
  modify fun s =>
    let others := s.parameters.filter (·.1 != name)
    let parameters := former.elim others fun v => (name, v) :: others
    { s with parameters, found := if name = "PATH" then [] else s.found }

/-- Gives a variable a value, or takes it away, and perhaps another property. -/
def assign (name : String) (value : Option String) (exported : Bool := false)
    (fixed : Bool := false) : Sh Unit := do
  let s ← get
  let former := s.parameters.lookup name
  let before : Variable := former.getD { value := none }
  if before.fixed then fault (name ++ ": is read only")
  let exported := exported || before.exported || (value.isSome && s.options.contains 'a')
  if value.isNone && !exported && !fixed then restore name none
  else restore name (some { value, exported, fixed })
  if name = "OPTIND" then
    modify fun s =>
      { s with optionSpot := ((value.bind String.toNat?).getD 1, none) }

/-- Gives a variable a value after looking at its name. -/
def assignNamed (name : String) (value : Option String) (exported : Bool := false)
    (fixed : Bool := false) : Sh Unit := do
  if isName name.toList then assign name value exported fixed
  else fault (name ++ ": bad variable name")

/-- Remembers a variable, to put it back when the function, or the command, is left. -/
def remember (f : Former) : Sh Unit :=
  modify fun s =>
    match s.formers with
    | frame :: frames => { s with formers := (f :: frame) :: frames }
    | [] => s

/-- Makes a variable one of the function, or the command, alone. -/
def localize (name : String) (value : Option String) (exported : Bool) : Sh Unit := do
  let former := (← get).parameters.lookup name
  match former with
  | none =>
    assignNamed name value exported
    remember (.value name none)
  | some v =>
    remember (.value name (some v))
    if value.isSome then assign name value exported

/-- Puts back what was remembered, down to a number of frames. -/
def unwind (depth : Nat) : Sh Unit := do
  for _ in [0:(← get).formers.length - depth] do
    match (← get).formers with
    | [] => return
    | frame :: frames =>
      modify fun s => { s with formers := frames }
      for f in frame do
        match f with
        | .value name former => restore name former
        | .options letters => modify fun s => { s with options := letters }

/-- The variables that a program gets. -/
def environment : Sh (List (String × String)) := do
  return (← get).parameters.filterMap fun (name, v) =>
    if v.exported then v.value.map (name, ·) else none

/-! ## Quoting -/

/-- A text in quotes, so that a shell reads it as it is. -/
def quoteFrom : Nat → List Char → List Char
  | 0, _ => []
  | fuel + 1, cs =>
    let plain := cs.takeWhile (· ≠ '\'')
    let rest := cs.drop plain.length
    let quotes := rest.takeWhile (· = '\'')
    '\'' :: plain ++ '\'' ::
      if quotes.isEmpty then []
      else '"' :: quotes ++ '"' ::
        (let rest := rest.drop quotes.length
        if rest.isEmpty then [] else quoteFrom fuel rest)

/-- A text in quotes. -/
def quoted (text : String) : String :=
  String.ofList (quoteFrom (text.length + 1) text.toList)

end Sh

end ContractBindings.Shell
