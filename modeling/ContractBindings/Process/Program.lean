import ContractBindings.Process.Stream

/-!
# Programs

A program is called by a name with arguments, and ends with a status or by a signal. The complaints
of most programs begin with the name by which they were called.
-/

namespace ContractBindings.Process

/-- How a program ends. -/
inductive Ending where
  | exit (status : Nat)
  | signal (number : Nat)
  deriving DecidableEq, Repr

/-- The status by which a shell knows an ending. -/
def Ending.status : Ending → Nat
  | .exit status => status
  | .signal number => 128 + number

/-- A call of a program. -/
structure Call where
  /-- The name by which it was called. -/
  name : String
  args : List String

/-- What a program does with its arguments. It gives back its status. -/
abbrev Program := Call → Act Nat

/-- A way to run the program in a file, in a process of its own, and to wait for its end. -/
abbrev Starter := String → Call → Act (Except Disk.Fault Ending)

namespace Call

/-- Complains in the name of the program, after what it has said so far. -/
def complain (c : Call) (text : String) : Act Unit := do
  Act.sendHeld
  Act.complain (c.name ++ ": " ++ text)

/-- Complains in the name of the program, and points to its help. -/
def misuse {α : Type} (c : Call) (status : Nat) (text : String) : Act α := do
  c.complain text
  Act.giveUp status ("Try '" ++ c.name ++ " --help' for more information.")

end Call

/-- The last part of a path; slashes at the end do not count. -/
def baseName (path : String) : String :=
  match (path.toList.reverse.dropWhile (· = '/')).takeWhile (· ≠ '/') with
  | [] => if path.isEmpty then "" else "/"
  | name => String.ofList name.reverse

/-! ## Signals -/

/-- The names of signals with their numbers. -/
def signals : List (String × Nat) :=
  [("HUP", 1), ("INT", 2), ("QUIT", 3), ("ILL", 4), ("TRAP", 5), ("ABRT", 6), ("BUS", 7),
    ("FPE", 8), ("KILL", 9), ("USR1", 10), ("SEGV", 11), ("USR2", 12), ("PIPE", 13), ("ALRM", 14),
    ("TERM", 15), ("STKFLT", 16), ("CHLD", 17), ("CONT", 18), ("STOP", 19), ("TSTP", 20),
    ("TTIN", 21), ("TTOU", 22), ("URG", 23), ("XCPU", 24), ("XFSZ", 25), ("VTALRM", 26),
    ("PROF", 27), ("WINCH", 28), ("POLL", 29), ("PWR", 30), ("SYS", 31)]

/-- The name of a signal, with `SIG` before it. -/
def signalName? (number : Nat) : Option String :=
  if number = 29 then some "SIGIO"
  else (signals.find? (·.2 == number)).map fun s => "SIG" ++ s.1

/-- What a shell says of a program that a signal has ended. -/
def signalText (number : Nat) : String :=
  match number with
  | 1 => "Hangup"
  | 2 => "Interrupt"
  | 3 => "Quit"
  | 4 => "Illegal instruction"
  | 5 => "Trace/breakpoint trap"
  | 6 => "Aborted"
  | 7 => "Bus error"
  | 8 => "Floating point exception"
  | 9 => "Killed"
  | 10 => "User defined signal 1"
  | 11 => "Segmentation fault"
  | 12 => "User defined signal 2"
  | 13 => "Broken pipe"
  | 14 => "Alarm clock"
  | 15 => "Terminated"
  | 16 => "Stack fault"
  | 24 => "CPU time limit exceeded"
  | 25 => "File size limit exceeded"
  | 26 => "Virtual timer expired"
  | 27 => "Profiling timer expired"
  | 29 => "I/O possible"
  | 30 => "Power failure"
  | 31 => "Bad system call"
  | n =>
    if 34 ≤ n && n ≤ 64 then "Real-time signal " ++ toString (n - 34)
    else "Unknown signal " ++ toString n

/-- The signal does nothing to a program that does not ask for it. -/
def isHarmless (signal : Nat) : Bool := signal ∈ [0, 17, 18, 23, 28]

namespace Act

/-- The signal that has come to end the program, if there is one. -/
def killer? : Act (Option Nat) := do
  let m ← get
  let own := m.world.signals.filter (·.1 = m.context.number)
  return (own.reverse.map (·.2)).find? fun n =>
    n = 9 || !isHarmless n && n ∉ m.context.ignored

/-- Lets time go by until some time, past deadlines, unless one of them ends the program. -/
def passUntil (time : Nat) : List Deadline → Act Unit
  | [] => modify fun m => { m with world := { m.world with clock := time, deadlines := [] } }
  | d :: rest => do
    if time ≤ d.time then
      modify fun m => { m with world := { m.world with clock := time, deadlines := d :: rest } }
    else
      modify fun m =>
        let reached := m.context.number :: m.world.alive.filter (· ≠ m.context.number)
        let signals := (reached.filter (d.owner < ·)).map (·, d.signal) ++ m.world.signals
        { m with world := { m.world with signals, clock := d.time, deadlines := rest } }
      if (← killer?).isNone then passUntil time rest

/-- Lets time go by. -/
def pass (moments : Nat) : Act Unit := do
  let world := (← get).world
  passUntil (world.clock + moments) world.deadlines

/-- Sets a deadline. -/
def setDeadline (d : Deadline) : Act Unit :=
  modify fun m =>
    let earlier := m.world.deadlines.takeWhile (·.time ≤ d.time)
    let deadlines := earlier ++ d :: m.world.deadlines.drop earlier.length
    { m with world := { m.world with deadlines } }

end Act

end ContractBindings.Process
