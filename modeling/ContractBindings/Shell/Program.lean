import ContractBindings.Shell.Evaluation

/-!
# The shell as a program

What a shell does with its arguments: it carries out a script from them, from a file, or from its
input.
-/

namespace ContractBindings.Shell

open Process

namespace Sh

/-- The variables of a new shell. -/
def setUp : Sh Unit := do
  let context := (← get).machine.context
  for (name, value) in context.environment do
    if isName name.toList then restore name (some { value := some value, exported := true })
  for (name, value) in [("IFS", usualSeparators), ("OPTIND", "1"), ("PS1", "# "), ("PS2", "> "),
      ("PS4", "+ "), ("PPID", toString context.parent)] do
    restore name (some { value := some value })
  if (← lookup? "PATH").isNone then restore "PATH" (some { value := some usualPath })
  let place := (← get).machine.workPath
  restore "PWD" (some { value := some place, exported := true })
  modify fun s => { s with place, process := context.number }

/-- Takes the options off the arguments of a shell. The first part of the result tells whether the
script is an argument. -/
def shellOptions : Nat → List String → Sh (Bool × List String)
  | 0, args => return (false, args)
  | fuel + 1, args => do
    match args with
    | [] => return (false, [])
    | arg :: rest =>
      match arg.toList with
      | ['-'] | ['-', '-'] => return (false, rest)
      | sign :: letters =>
        if sign = '-' || sign = '+' then
          let own := letters.filter fun c => c ≠ 'c' && c ≠ 'l'
          let rest ← turnLetters (sign = '-') own rest
          let (given, rest) ← shellOptions fuel rest
          return (given || letters.contains 'c', rest)
        else return (false, args)
      | [] => return (false, args)

/-- Does what the arguments of a shell say. -/
def obey (start : Starter) (args : List String) : Sh Unit := do
  modify fun s => { s with line := 0 }
  let (given, args) ← shellOptions (args.length + 1) args
  match given, args with
  | true, [] => fault "-c requires an argument"
  | true, script :: others =>
    modify fun s => { s with name := others.head?.getD s.name, args := others.tail }
    let isLast := !(← isOn 's')
    let _ ← runText start maxDepth { isLast } script
  | false, args =>
    let text ←
      if args.isEmpty || (← isOn 's') then do
        turn 's' true
        modify fun s => { s with args }
        match ← carry (Act.readAll 0) with
        | .ok text => pure text
        | .error _ => pure ""
      else do
        let path := args.head?.getD ""
        match ← carry (Act.readFile path) with
        | .error .isDirectory => pure ""
        | .error f =>
          let reason := if f = .notFound || f = .notDirectory then "No such file" else f.reason
          fault ("cannot open " ++ path ++ ": " ++ reason)
        | .ok text =>
          modify fun s => { s with name := path, args := args.tail }
          pure text
    let _ ← runText start maxDepth {} text

end Sh

/-- A shell. It ends by a signal if one is sent to it. -/
def program (start : Starter) (c : Call) : Act Ending := do
  let machine ← get
  let steps : Sh Ending := do
    Sh.setUp
    Sh.finish start maxDepth (Sh.obey start c.args)
  let session : Session := { machine, name := c.name }
  let (result, after) := (ExceptT.run steps).run session
  MonadState.set { machine with world := after.machine.world }
  return match result with
    | .ok ending => ending
    | .error _ => .exit 2

end ContractBindings.Shell
