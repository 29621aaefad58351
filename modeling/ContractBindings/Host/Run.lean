import ContractBindings.Shell.Program
import ContractBindings.Host.Programs
import ContractBindings.Host.Tree

/-!
# Running programs

A program runs in a process of its own, which begins with what the process that starts it has. What
a file holds tells which program it is: one of the system, or a script for another one.

* `start`: runs the program in a file.
* `execute`: runs a program that is given by its name, and tells what it leaves behind.
-/

namespace ContractBindings.Host

open Process
open Disk (Fault)

/-- Ends a utility whose output was not taken. -/
def settleOutput (c : Call) (status : Nat) : Act Nat := do
  Act.sendHeld
  match ← Act.takeOutputFault with
  | none => return status
  | some fault =>
    Act.complain (c.name ++ ": write error: " ++ fault.reason)
    return 1

/-- Runs steps in a process of its own. -/
def inProcess (steps : Act Ending) : Act Ending := do
  let m ← get
  let lastProcess := if m.context.replaces then m.world.lastProcess else m.world.lastProcess + 1
  let number := if m.context.replaces then m.context.number else lastProcess
  let parent := if m.context.replaces then m.context.parent else m.context.number
  let alive := number :: m.world.alive
  set {
    world := { m.world with lastProcess, clock := m.world.clock + 1, alive }
    context := { m.context with
      number, parent, replaces := false, held := [], outputFault := none } : Machine }
  let ending ← steps
  modify fun after =>
    let ended := after.world.alive.filter (· ≠ number)
    { m with world := { after.world with alive := ended } }
  return ending

/-- Runs a utility, which ends early if a signal has come. -/
def runUtility (p : Call → Act Ending) (c : Call) : Act Ending := do
  let ending ← tryCatch (p c) fun status => return .exit status
  match ← Act.killer?, ending with
  | some signal, _ => return .signal signal
  | none, .exit status => return .exit (← settleOutput c status)
  | none, ending => return ending

/-- Runs the program of a name. -/
def runNamed (start : Starter) (name : String) (c : Call) : Act Ending :=
  if name ∈ shells then Shell.program start c
  else
    match utilities.lookup name, starters.lookup name with
    | some p, _ => runUtility (fun c => .exit <$> p c) c
    | none, some p => runUtility (p start) c
    | none, none => return .exit 127

/-- The interpreter that the first line of a script names, and the argument for it. -/
def interpreter? (bytes : ByteArray) : Option (String × List String) :=
  match (Text.octetsOf (bytes.extract 0 255)).toList with
  | '#' :: '!' :: rest =>
    let isBlank (c : Char) : Bool := c = ' ' || c = '\t'
    let line := rest.takeWhile (· ≠ '\n')
    let line := ((line.dropWhile isBlank).reverse.dropWhile isBlank).reverse
    let path := line.takeWhile (!isBlank ·)
    let argument := (line.drop path.length).dropWhile isBlank
    if path.isEmpty then none
    else some (String.ofList path, if argument.isEmpty then [] else [String.ofList argument])
  | _ => none

/-- The longest argument. -/
def maxArgument : Nat := 131071

/-- Runs the program in a file. The first argument bounds how deep programs start each other. -/
def start : Nat → Starter
  | 0, _, _ => return .error .tooLarge
  | depth + 1, path, c => do
    match ← Act.look path with
    | .error fault => return .error fault
    | .ok (_, .file bytes attributes) =>
      if attributes.mode &&& 0o111 = 0 then return .error .permissionDenied
      else if c.args.any fun a => maxArgument < a.length then return .error .tooLarge
      else
        match programIn? bytes, interpreter? bytes with
        | some name, _ => return .ok (← inProcess (runNamed (start depth) name c))
        | none, some (interpreter, given) =>
          start depth interpreter { name := interpreter, args := given ++ path :: c.args }
        | none, none => return .error .notExecutable
    | .ok _ => return .error .permissionDenied

/-- How deep programs start each other. -/
def maxDepth : Nat := 400

/-! ## From outside -/

/-- What a program leaves behind. -/
structure Outcome where
  ending : Ending
  output : ByteArray
  complaints : ByteArray
  disk : Disk

/-- Why a program did not start. -/
inductive StartFault where
  | disk (fault : Fault)
  /-- A text with the character that ends texts for the operating system. -/
  | nulInText
  deriving DecidableEq, Repr

/-- The wording of a fault. -/
def StartFault.message : StartFault → String
  | .disk fault => fault.message
  | .nulInText => "nul byte found in provided data"

/-- The directories in which programs are sought. -/
def searchPath : List String :=
  ["/usr/local/sbin", "/usr/local/bin", "/usr/sbin", "/usr/bin", "/sbin", "/bin"]

/-- What every program is told. -/
def environment : List (String × String) :=
  [("HOME", "/root"), ("PATH", String.intercalate ":" searchPath)]

/-- Runs a program, which is sought in the usual directories if its name has no slash. -/
def runFound (c : Call) : Act (Except Fault Ending) := do
  if c.name.contains '/' then start maxDepth c.name c
  else if c.name.isEmpty then return .error .notFound
  else if Disk.Path.maxNameBytes < c.name.length then return .error .nameTooLong
  else
    let rec search (denied : Bool) : List String → Act (Except Fault Ending)
      | [] => return .error (if denied then .permissionDenied else .notFound)
      | directory :: rest => do
        match ← start maxDepth (Disk.Path.join directory c.name) c with
        | .error .permissionDenied => search true rest
        | .error .notFound | .error .notDirectory => search denied rest
        | result => return result
    search false searchPath

/-- The machine on which a program runs that has nothing to read, and whose output and complaints go
to a buffer each. The entries of a directory are in order on it, however the disk has them. -/
def machineOn (d : Disk) : Machine :=
  { world := {
      disk := { d with root := d.root.arranged }
      ordered := Disk.Node.ordered_arranged d.root
      opened := #[{ channel := .device .null, reads := true },
        { channel := .buffer 0, writes := true }, { channel := .buffer 1, writes := true }]
      buffers := #[.empty, .empty]
      lastIdentity := d.lastIdentity
      clock := d.clock + 1 }
    context := { here := d.here, streams := [(0, 0), (1, 1), (2, 2)], environment } }

/-- Runs a program in a directory, and waits for its end. -/
def execute (program : String) (args : List String) (directory : Option String) (d : Disk) :
    Except StartFault Outcome :=
  if (program :: args ++ directory.toList).any (·.contains '\x00') then .error .nulInText
  else
    match directory.elim (.ok d) d.enter with
    | .error fault => .error (.disk fault)
    | .ok within =>
      let c : Call := { name := Text.octets program, args := args.map Text.octets }
      match (runFound c).run.run (machineOn within) with
      | (.error status, m) | (.ok (.ok (.exit status)), m) => finished (.exit status) m
      | (.ok (.ok ending), m) => finished ending m
      | (.ok (.error fault), _) => .error (.disk fault)
where
  /-- What a program leaves behind at its end. -/
  finished (ending : Ending) (m : Machine) : Except StartFault Outcome :=
    .ok {
      ending
      output := m.world.buffers[0]?.getD .empty
      complaints := m.world.buffers[1]?.getD .empty
      disk := { m.world.disk with
        here := d.here, clock := m.world.clock, lastIdentity := m.world.lastIdentity } }

end ContractBindings.Host
