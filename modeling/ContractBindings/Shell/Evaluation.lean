import ContractBindings.Shell.Condition
import ContractBindings.Shell.Print
import ContractBindings.Shell.Reader
import ContractBindings.Shell.Redirect
import ContractBindings.Shell.Surrounding

/-!
# Evaluation

How a shell carries out scripts. A script that is to run apart gets a session of its own, from which
only the world comes back. Scripts beside each other run one after the other: each stage of a pipe
after the one from which it reads, and a command in the background when somebody waits.

All functions take a bound on the depth of calls, which `maxDepth` provides.
-/

namespace ContractBindings.Shell

open Process

/-- The circumstances of a command. -/
structure Circumstances where
  /-- The shell leaves after it, so that a program can take its place. -/
  isLast : Bool := false
  /-- Its failure is looked at, and is no reason to leave. -/
  isTested : Bool := false

/-- What a name stands for. -/
inductive Meaning where
  | function (body : Script)
  | builtin
  | program

/-- How a loop goes on after a part of it. -/
inductive Turn where
  | on
  | next
  | leave
  deriving DecidableEq

namespace Sh

/-! ## Steps that need no other commands -/

/-- The next command is on a line. -/
def atLine (line : Nat) : Sh Unit := modify fun s => { s with line }

/-- How a loop goes on. -/
def turn? : Sh Turn := do
  let s ← get
  match s.skip with
  | .nothing => return .on
  | .function => return .leave
  | .loops count continues =>
    if count ≤ 1 then
      MonadState.set { s with skip := .nothing }
      return if continues then .next else .leave
    else
      MonadState.set { s with skip := .loops (count - 1) continues }
      return .leave

/-- Something is being left. -/
def isSkipping : Sh Bool := return (← get).skip ≠ .nothing

/-- Something is done on a signal. -/
def hasTraps : Sh Bool := return (← get).traps.any fun t => !t.2.isEmpty

/-- What a name stands for. -/
def meaning (withFunctions : Bool) (name : String) : Sh Meaning := do
  match (← get).functions.lookup name, withFunctions with
  | some body, true => return .function body
  | _, _ => return if name ∈ builtinNames then .builtin else .program

/-- Leaves loops, or goes on with the next round of one. -/
def leaveLoops (continues : Bool) : Builtin := fun args => do
  let n ← args.head?.elim (pure 1) count
  if n = 0 then fault ("Illegal number: " ++ args.head?.getD "")
  let n := min n (← get).loops
  if n ≠ 0 then modify fun s => { s with skip := .loops n continues }
  return 0

/-- Leaves a function, or a script that was read by a command. -/
def leaveFunction : Builtin := fun args => do
  let status ← args.head?.elim (do pure (← get).status) count
  modify fun s => { s with skip := .function }
  return status

/-- Leaves the shell. -/
def leave : Builtin := fun args => do
  let s ← get
  let status ← args.head?.elim (pure (s.statusBefore.getD s.status)) count
  setStatus (status % 256)
  throw .leave

/-- Tells what a name would start, if that is asked for. -/
def describeCommand : Builtin := fun args => do
  let (options, names) ← takeOptions "pvV" args
  let list := if options.any (·.1 = 'p') then some usualPath else none
  match names with
  | [] => return 0
  | name :: _ =>
    if options.any (·.1 = 'V') then describe true list name
    else if options.any (·.1 = 'v') then describe false list name
    else return 0

/-- The commands that need no other commands. -/
def builtin? : String → Option Builtin
  | ":" | "true" => some fun _ => return 0
  | "false" => some fun _ => return 1
  | "break" => some (leaveLoops false)
  | "continue" => some (leaveLoops true)
  | "return" => some leaveFunction
  | "exit" => some leave
  | "export" => some (mark "export")
  | "readonly" => some (mark "readonly")
  | "local" => some makeLocal
  | "set" => some set
  | "shift" => some shift
  | "times" => some times
  | "trap" => some trap
  | "unset" => some unset
  | "alias" => some nameTexts
  | "unalias" => some unalias
  | "bg" | "fg" => some fun args => do
    match args with
    | [] => fault "No current job"
    | text :: _ => fault ("No such job: " ++ text)
  | "jobs" => some jobs
  | "cd" | "chdir" => some changePlace
  | "command" => some describeCommand
  | "echo" => some echo
  | "printf" => some fun args => do
    let (_, args) ← takeOptions "" args
    print args
  | "getopts" => some getopts
  | "hash" => some hash
  | "kill" => some kill
  | "pwd" => some tellPlace
  | "read" => some read
  | "test" => some (test "test")
  | "[" => some (test "[")
  | "type" => some type
  | "ulimit" => some ulimit
  | "umask" => some umask
  | "wait" => some wait
  | _ => none

/-- What a text says if it stands in a document. A text that cannot be read so stands for itself. -/
def quotedText (capture : Capture) (text : String) : Sh String := do
  if !text.any (fun c => c = '$' || c = '\x60' || c = '\\') then return text
  let steps : Sh String := do
    let s ← get
    match readQuoted { chars := text.toList, aliases := s.aliases, documents := s.documents } with
    | .error found =>
      MonadState.set { s with line := found.line }
      fault ("Syntax error: " ++ found.message)
    | .ok (word, source) =>
      MonadState.set { s with documents := source.documents }
      document capture word
  tryCatch steps fun
    | .fault => return text
    | halt => throw halt

/-- Traces a command, where complaints went before its redirections. -/
def trace (capture : Capture) (former : FormerStreams) (words : List String) : Sh Unit := do
  modify fun s => { s with traces := true }
  let start ← quotedText capture ((← lookup? "PS4").getD "")
  modify fun s => { s with traces := false }
  let streams := (← get).machine.context.streams
  let before := (former.reverse.find? (·.1 = 2)).elim (streams.lookup 2) (·.2)
  let now := streams.lookup 2
  carry (Act.setStream 2 before)
  carry (Act.complain (start ++ String.intercalate " " words))
  carry (Act.setStream 2 now)

/-- Runs the program in a file in a process of its own. -/
def spawn (start : Starter) (path name : String) (args : List String) :
    Sh (Except Disk.Fault Ending) := do
  let given ← environment
  let before := (← get).machine.context
  changeContext fun c => { c with environment := given, held := [] }
  let result ← act (start path { name, args })
  changeContext fun _ => before
  return match result with
    | .ok ending => ending
    | .error status => .ok (.exit status)

/-- Runs a program, or a file that is a script, and complains if neither can be done. -/
def spawnAny (start : Starter) (path : String) (argv : List String) : Sh Ending := do
  let name := argv.head?.getD ""
  let complain (f : Disk.Fault) : Sh Ending := do
    let missing := f = .notFound || f = .notDirectory || f = .nameTooLong || f = .tooManyLinks
    warn (name ++ ": " ++ startText f)
    return .exit (if missing then 127 else 126)
  match ← spawn start path name argv.tail with
  | .ok ending => return ending
  | .error .notExecutable =>
    match ← spawn start "/bin/sh" "/bin/sh" (path :: argv.tail) with
    | .ok ending => return ending
    | .error f => complain f
  | .error f => complain f

/-- Ends the shell if a signal has come for which it has nothing to do. -/
def succumb : Sh Unit := do
  let s ← get
  let mine := s.machine.world.signals.filter (·.1 = s.machine.context.number)
  let deadly (n : Nat) : Bool :=
    n = 9 || !isHarmless n && n ∉ s.machine.context.ignored && (s.traps.lookup n).isNone
  match (mine.reverse.map (·.2)).find? deadly with
  | some n => throw (.ended (.signal n))
  | none => return

/-- The status of a program that has ended, after telling which signal has ended it. -/
def settle (ending : Ending) : Sh Nat := do
  succumb
  modify fun s => { s with jobs := s.jobs.map fun j => { j with isNoted := j.ending.isSome } }
  tellSignal ending
  return ending.status

/-- Sets all deadlines. -/
def setDeadlines (deadlines : List Deadline) : Sh Unit :=
  modify fun s =>
    let world := { s.machine.world with deadlines }
    { s with machine := { s.machine with world } }

/-- More thousandths of a second than any deadline leaves. -/
def forever : Nat := 1000000000000

/-- Looks for the program that a stage of a pipe begins with, so that it has been found. -/
def findAhead : Script → Sh Unit
  | .simple _ _ (w :: _) _ => do
    let name := String.ofList ((bare? w).getD [])
    if isName name.toList then
      match ← meaning true name with
      | .program =>
        let _ ← locate name
      | _ => return
  | _ => return

/-- Begins the session of a shell apart. -/
def beginApart (inBackground : Bool) : Sh Unit :=
  modify fun s =>
    let world := s.machine.world
    let number := world.lastProcess + 1
    let world := { world with lastProcess := number, alive := number :: world.alive }
    let context := { s.machine.context with number, parent := s.machine.context.number, held := [] }
    let traps := s.traps.filter (·.2.isEmpty)
    let ignored := if inBackground then 2 :: 3 :: context.ignored else context.ignored
    let machine : Machine := { world, context := { context with ignored } }
    { s with machine, traps, jobs := [], statusBefore := none }

/-- What is left of a session after a shell apart. -/
def afterApart (before after : Session) : Session :=
  let world := after.machine.world
  let alive := world.alive.filter (· != after.machine.context.number)
  { before with machine := { before.machine with world := { world with alive } } }

/-! ## Commands -/

mutual

/-- Carries out a script. -/
def run (start : Starter) : Nat → Circumstances → Script → Sh Nat
  | 0, _, _ => return 0
  | fuel + 1, c, script => do
    if !(← isOn 'n') then
      handleSignals start fuel
      let checked ← runOne start fuel c script
      handleSignals start fuel
      let s ← get
      if checked && !c.isTested && s.status ≠ 0 && s.options.contains 'e' then throw .leave
    if c.isLast then throw .leave
    return (← get).status

/-- Carries out a script without what comes after it. The result tells whether its failure is a
reason to leave. -/
def runOne (start : Starter) : Nat → Circumstances → Script → Sh Bool
  | 0, _, _ => return false
  | fuel + 1, c, script => do
    let tested : Circumstances := { isTested := true }
    let within : Circumstances := { isTested := c.isTested }
    match script with
    | .nothing => return false
    | .simple line assignments words redirections =>
      atLine line
      setStatus (← runSimple start fuel c assignments words redirections)
      return true
    | .sequence first second =>
      let _ ← run start fuel within first
      if !(← isSkipping) then setStatus (← run start fuel c second)
      return false
    | .both first second =>
      if (← run start fuel tested first) = 0 && !(← isSkipping) then
        setStatus (← run start fuel c second)
      return false
    | .either first second =>
      if (← run start fuel tested first) ≠ 0 && !(← isSkipping) then
        setStatus (← run start fuel c second)
      return false
    | .negation body =>
      let status ← run start fuel tested body
      setStatus (if status = 0 then 1 else 0)
      return false
    | .pipe stages inBackground =>
      setStatus (← runPipe start fuel c stages inBackground)
      return true
    | .redirected line body redirections =>
      atLine line
      let plans ← plan (capture start fuel) redirections
      let (former, done) ← redirect (capture start fuel) plans []
      let status ← if done then run start fuel within body else pure 2
      putStreamsBack former
      setStatus status
      return false
    | .apart line body redirections =>
      atLine line
      let plans ← plan (capture start fuel) redirections
      let steps : Sh Unit := runApart start fuel { c with isLast := true } body plans
      if c.isLast && !(← hasTraps) then
        steps
        return true
      setStatus (← settle (← apart start fuel false steps))
      return true
    | .aside line body redirections =>
      atLine line
      let plans ← plan (capture start fuel) redirections
      runAside start fuel (runApart start fuel { isLast := true } body plans)
      setStatus 0
      return true
    | .branch condition consequence alternative =>
      let status ← run start fuel tested condition
      if ← isSkipping then return false
      if status = 0 then setStatus (← run start fuel c consequence)
      else
        match alternative with
        | some other => setStatus (← run start fuel c other)
        | none => setStatus 0
      return false
    | .loop negated condition body =>
      modify fun s => { s with loops := s.loops + 1 }
      let status ← runLoop start fuel within negated condition body 0
      modify fun s => { s with loops := s.loops - 1 }
      setStatus status
      return false
    | .each line name items body =>
      atLine line
      let values ← allFields (capture start fuel) items
      modify fun s => { s with loops := s.loops + 1 }
      let status ← runEach start fuel within name body values 0
      modify fun s => { s with loops := s.loops - 1 }
      setStatus status
      return false
    | .select line subject choices =>
      atLine line
      let text ← text (capture start fuel) .start subject
      setStatus (← runChoices start fuel c text choices)
      return false
    | .definition name body =>
      modify fun s => { s with functions := (name, body) :: s.functions.filter (·.1 != name) }
      setStatus 0
      return false

/-- Carries out the rounds of a loop. -/
def runLoop (start : Starter) : Nat → Circumstances → Bool → Script → Script → Nat → Sh Nat
  | 0, _, _, _, _, status => do
    -- A loop without an end takes all the time that there is.
    carry (Act.pass forever)
    succumb
    return status
  | fuel + 1, c, negated, condition, body, status => do
    let held ← run start fuel { isTested := true } condition
    let skip := (← get).skip
    match ← turn? with
    | .next => runLoop start fuel c negated condition body status
    | .leave => return if skip = .function then held else status
    | .on =>
      if (held = 0) = negated then return status
      let status ← run start fuel c body
      match ← turn? with
      | .leave => return status
      | _ => runLoop start fuel c negated condition body status

/-- Carries out a script once for each value of a variable. -/
def runEach (start : Starter) : Nat → Circumstances → String → Script → List String → Nat → Sh Nat
  | 0, _, _, _, _, status => return status
  | _ + 1, _, _, _, [], status => return status
  | fuel + 1, c, name, body, value :: rest, _ => do
    assign name (some value)
    let status ← run start fuel c body
    match ← turn? with
    | .leave => return status
    | _ => runEach start fuel c name body rest status

/-- Carries out the first choice that matches a text. -/
def runChoices (start : Starter) : Nat → Circumstances → String → List Choice → Sh Nat
  | 0, _, _, _ => return 0
  | _ + 1, _, _, [] => return 0
  | fuel + 1, c, text, .mk patterns body :: rest => do
    if ← matchesAny start fuel text patterns then
      match body with
      | .nothing => return 0
      | body => run start fuel c body
    else runChoices start fuel c text rest

/-- Some pattern matches a text. -/
def matchesAny (start : Starter) : Nat → String → List Word → Sh Bool
  | 0, _, _ => return false
  | _ + 1, _, [] => return false
  | fuel + 1, text, w :: rest => do
    let pattern ← pattern (capture start fuel) w
    if Text.Pattern.isMatch pattern text.toList then return true
    matchesAny start fuel text rest

/-- Carries out a script in a shell apart, with redirections. -/
def runApart (start : Starter) : Nat → Circumstances → Script → List Plan → Sh Unit
  | 0, _, _, _ => return
  | fuel + 1, c, body, plans => do
    let (_, done) ← redirect (capture start fuel) plans []
    if !done then throw .fault
    let _ ← run start fuel c body

/-- Carries out steps in a shell apart, and waits for its end. -/
def apart (start : Starter) : Nat → Bool → Sh Unit → Sh Ending
  | 0, _, _ => return .exit 0
  | fuel + 1, inBackground, steps => do
    runJobs .now
    let _ ← takePlace
    let before ← get
    beginApart inBackground
    let ending ← finish start fuel steps
    modify fun after => afterApart before after
    return ending

/-- Puts steps off until somebody waits. -/
def runAside (start : Starter) : Nat → Sh Unit → Sh Unit
  | 0, _ => return
  | fuel + 1, steps => do
    let place ← takePlace
    let s ← get
    let number := s.machine.world.lastProcess + 1
    let world := { s.machine.world with lastProcess := number }
    let jobRun (world : World) : World × Ending :=
      let inner : Sh Ending := do
        beginApart true
        changeContext fun c => { c with number }
        match ← carry (Act.openPath .reading "/dev/null") with
        | .ok index => carry (Act.setStream 0 (some index))
        | .error _ => pure ()
        finish start fuel steps
      let machine := { s.machine with world }
      let (result, after) := (ExceptT.run inner).run { s with machine }
      let ending : Ending :=
        match result with
        | .ok ending => ending
        | .error _ => .exit 2
      let world := after.machine.world
      ({ world with alive := world.alive.filter (· != number) }, ending)
    MonadState.set
      { s with
        machine := { s.machine with world }
        jobs := s.jobs ++ [{ number, place, since := world.clock, run := jobRun }]
        lastJob := some number }

/-- Carries out steps and what is to be done at the end of a shell. -/
def finish (start : Starter) : Nat → Sh Unit → Sh Ending
  | 0, _ => return .exit 0
  | fuel + 1, steps => do
    let halted (steps : Sh Unit) : Sh Halt :=
      tryCatch (do steps; return Halt.leave) fun halt => return halt
    let close (halt : Halt) : Sh Ending := do
      -- What is still beside the shell goes on alone, where no deadline of the shell reaches it.
      let deadlines := (← get).machine.world.deadlines
      setDeadlines []
      runJobs .ever
      setDeadlines deadlines
      carry Act.sendHeld
      match halt with
      | .ended ending => return ending
      | _ => return .exit (← get).status
    let halt ← halted steps
    match halt, (← get).traps.lookup 0 with
    | .ended ending, _ => close (.ended ending)
    | halt, none => close halt
    | _, some action =>
      let status := (← get).status
      modify fun s =>
        { s with traps := s.traps.filter (·.1 != 0), skip := .nothing, statusBefore := some status }
      let halt ← halted do
        let _ ← runText start fuel {} action
        setStatus status
      close halt

/-- Does what is to be done on the signals that have come. -/
def handleSignals (start : Starter) : Nat → Sh Unit
  | 0 => return
  | fuel + 1 => do
    let s ← get
    let own := s.machine.context.number
    let mine := s.machine.world.signals.filter (·.1 = own)
    if mine.isEmpty then return
    let others := s.machine.world.signals.filter (·.1 != own)
    let world := { s.machine.world with signals := others }
    MonadState.set { s with machine := { s.machine with world } }
    for n in List.range 65 do
      if mine.any (·.2 = n) then
        match (if n = 9 then none else s.traps.lookup n) with
        | none =>
          if !isHarmless n && (n = 9 || n ∉ s.machine.context.ignored) then
            throw (.ended (.signal n))
        | some "" => pure ()
        | some action =>
          let before := (← get).statusBefore
          let status := before.getD (← get).status
          modify fun s => { s with statusBefore := some status }
          let _ ← runText start fuel {} action
          if (← get).skip ≠ .function then setStatus status
          modify fun s => { s with statusBefore := before }

/-- Carries out the stages of a pipe, each of which reads what the one before it writes. -/
def runPipe (start : Starter) : Nat → Circumstances → List Script → Bool → Sh Nat
  | 0, _, _, _ => return 0
  | fuel + 1, c, stages, inBackground => do
    if inBackground then
      runAside start fuel do
        let _ ← runStages start fuel c stages none
        throw .leave
      return 0
    else runStages start fuel c stages none

/-- Carries out the stages of a pipe, the first of which reads a buffer. The result is the status of
the last one. -/
def runStages (start : Starter) : Nat → Circumstances → List Script → Option Nat → Sh Nat
  | 0, _, _, _ => return 0
  | _ + 1, _, [], _ => return (← get).status
  | fuel + 1, c, stage :: rest, source => do
    findAhead stage
    let target? ←
      if rest.isEmpty then pure none
      else do
        let buffer ← carry (Act.addBuffer "")
        pure (some buffer)
    let steps : Sh Unit := do
      if let some buffer := source then
        let opened ← carry (Act.addOpenFile { channel := .buffer buffer, reads := true })
        carry (Act.setStream 0 (some opened))
      if let some buffer := target? then
        let opened ← carry (Act.addOpenFile { channel := .buffer buffer, writes := true })
        carry (Act.setStream 1 (some opened))
      let _ ← run start fuel { c with isLast := true } stage
    let status ← settle (← apart start fuel false steps)
    if rest.isEmpty then
      setStatus status
      return status
    else runStages start fuel c rest target?

/-- Carries out a script apart and gives back what it has said. -/
def capture (start : Starter) : Nat → Capture
  | 0, _ => return ""
  | fuel + 1, script => do
    match script with
    | .nothing =>
      modify fun s => { s with innerStatus := 0 }
      return ""
    | script =>
      let buffer ← carry (Act.addBuffer "")
      let steps : Sh Unit := do
        let opened ← carry (Act.addOpenFile { channel := .buffer buffer, writes := true })
        carry (Act.setStream 1 (some opened))
        let _ ← run start fuel { isLast := true } script
      let status ← settle (← apart start fuel false steps)
      modify fun s => { s with innerStatus := status }
      return Text.octetsOf ((← get).machine.world.buffers[buffer]?.getD .empty)

/-- Carries out the text of a script. -/
def runText (start : Starter) : Nat → Circumstances → String → Sh Nat
  | 0, _, _ => return 0
  | fuel + 1, c, text => do
    let before := (← get).readLine
    let status ← runFrom start fuel c { chars := text.toList } 0
    modify fun s => { s with readLine := before }
    return status

/-- Carries out what is left of the text of a script. -/
def runFrom (start : Starter) : Nat → Circumstances → Source → Nat → Sh Nat
  | 0, _, _, status => return status
  | fuel + 1, c, source, status => do
    let s ← get
    match readCommand { source with aliases := s.aliases, documents := s.documents } with
    | .error fault =>
      MonadState.set { s with line := fault.line }
      Sh.fault ("Syntax error: " ++ fault.message)
    | .ok (script?, source) =>
      MonadState.set { s with documents := source.documents, readLine := source.line }
      match script? with
      | none => return status
      | some .nothing => runFrom start fuel c source status
      | some script =>
        let status ← run start fuel { c with isLast := c.isLast && source.isOver } script
        if ← isSkipping then return status else runFrom start fuel c source status

/-- Carries out a simple command. -/
def runSimple (start : Starter) : Nat → Circumstances → List (String × Word) → List Word →
    List Redirection → Sh Nat
  | 0, _, _, _, _ => return 0
  | fuel + 1, c, assignments, words, redirections => do
    modify fun s => { s with innerStatus := 0 }
    let (first, rest) ← firstFields start fuel words
    let (means, special, list?, taken, fields, rest) ←
      commandOf start fuel true none none [] first rest
    let name := fields.head?.getD ""
    let assigns := name ∈ ["alias", "export", "local", "readonly"]
    let others ← argumentsOf start fuel (assigns && means matches .builtin) rest
    let fields := fields ++ others
    let executes := name = "exec" && (means matches .builtin) && 1 < fields.length
    let separate := !first.isEmpty && special ≠ some true
    let depth := (← get).formers.length
    if separate then modify fun s => { s with formers := [] :: s.formers }
    let plans ← plan (capture start fuel) redirections
    let (former, done) ← redirect (capture start fuel) plans []
    let status ←
      if !done then
        setStatus 2
        if special = some true then throw .fault
        pure 2
      else do
        let texts ← runAssignments start fuel separate executes assignments
        if (← isOn 'x') && !(← get).traces then
          trace (capture start fuel) former (texts ++ taken ++ fields)
        if fields.isEmpty then pure (← get).innerStatus
        else
          match means with
          | .builtin => runBuiltin start fuel c (special = some true) name fields.tail
          | .function body => runFunction start fuel c body fields.tail
          | .program => runProgram start fuel c list? fields
    if !(name = "exec" && done && (means matches .builtin)) then putStreamsBack former
    unwind depth
    return status

/-- Expands words up to the first one that is not nothing: its fields, and the words after it. -/
def firstFields (start : Starter) : Nat → List Word → Sh (List String × List Word)
  | 0, _ => return ([], [])
  | _ + 1, [] => return ([], [])
  | fuel + 1, w :: rest => do
    match ← fields (capture start fuel) w with
    | [] => firstFields start fuel rest
    | found => return (found, rest)

/-- What the first of some fields stands for, after the command `command` has been taken off with
its options: the meaning, whether it is a command that cannot be replaced, the list of directories
to look in, what has been taken off, and the fields and words that are left. -/
def commandOf (start : Starter) : Nat → Bool → Option Bool → Option String → List String →
    List String → List Word →
    Sh (Meaning × Option Bool × Option String × List String × List String × List Word)
  | 0, _, special, list, taken, fields, rest =>
    return (.builtin, special, list, taken, fields, rest)
  | fuel + 1, withFunctions, special, list, taken, fields, rest => do
    match fields with
    | [] => return (.builtin, special, list, taken, [], rest)
    | name :: others =>
      let means ← meaning withFunctions name
      match means with
      | .builtin =>
        let special := some (special.getD (decide (name ∈ specialNames)))
        if name ≠ "command" then return (means, special, list, taken, fields, rest)
        match ← commandOptions start fuel none others rest with
        | none => return (means, special, list, taken, fields, rest)
        | some (usual, options, others, rest) =>
          commandOf start fuel false special (usual <|> list) (taken ++ name :: options) others rest
      | _ => return (means, special, list, taken, fields, rest)

/-- Takes the options of `command` off fields and words, unless it is to be carried out itself. -/
def commandOptions (start : Starter) : Nat → Option String → List String → List Word →
    Sh (Option (Option String × List String × List String × List Word))
  | 0, _, _, _ => return none
  | fuel + 1, list, fields, rest => do
    match fields with
    | [] =>
      match ← firstFields start fuel rest with
      | ([], _) => return none
      | (found, rest) => commandOptions start fuel list found rest
    | arg :: others =>
      match arg.toList with
      | ['-', '-'] =>
        match others with
        | [] =>
          match ← firstFields start fuel rest with
          | ([], _) => return none
          | (found, rest) => return some (list, [arg], found, rest)
        | others => return some (list, [arg], others, rest)
      | '-' :: c :: cs =>
        if (c :: cs).all (· = 'p') then
          let found ← commandOptions start fuel (some usualPath) others rest
          return found.map fun (list, options, left) => (list, arg :: options, left)
        else return none
      | _ => return some (list, [], fields, rest)

/-- Expands words; one that is an assignment is not split if `assigns`. -/
def argumentsOf (start : Starter) : Nat → Bool → List Word → Sh (List String)
  | 0, _, _ => return []
  | _ + 1, _, [] => return []
  | fuel + 1, assigns, w :: rest => do
    let first ←
      if assigns && (assignment? w).isSome then do
        pure [← text (capture start fuel) .assignment w]
      else fields (capture start fuel) w
    return first ++ (← argumentsOf start fuel assigns rest)

/-- Carries out assignments, for one command only if `separate`. The results are their texts. -/
def runAssignments (start : Starter) : Nat → Bool → Bool → List (String × Word) → Sh (List String)
  | 0, _, _, _ => return []
  | _ + 1, _, _, [] => return []
  | fuel + 1, separate, exported, (name, w) :: rest => do
    let value ← text (capture start fuel) .value w
    if separate then localize name (some value) true
    else assign name (some value) exported
    return (name ++ "=" ++ value) :: (← runAssignments start fuel separate exported rest)

/-- Carries out a command of the shell. -/
def runBuiltin (start : Starter) : Nat → Circumstances → Bool → String → List String → Sh Nat
  | 0, _, _, _, _ => return 0
  | fuel + 1, c, special, name, args => do
    let outer := (← get).command
    modify fun s => { s with command := some name }
    let steps : Sh Nat := do
      let status ←
        match builtin? name with
        | some builtin => builtin args
        | none => runOuter start fuel c name args
      carry Act.sendHeld
      if (← carry Act.takeOutputFault).isSome then
        warn (name ++ ": I/O error")
        pure (status ||| 1)
      else pure status
    let result : Except Halt Nat ←
      tryCatch (Except.ok <$> steps) fun halt => return .error halt
    modify fun s => { s with command := outer }
    match result with
    | .ok status =>
      setStatus status
      return status
    | .error .fault =>
      if special then throw .fault
      return (← get).status
    | .error halt => throw halt

/-- Carries out a command of the shell that carries out others. -/
def runOuter (start : Starter) : Nat → Circumstances → String → List String → Sh Nat
  | 0, _, _, _ => return 0
  | fuel + 1, c, name, args => do
    match name, args with
    | "eval", [] => return 0
    | "eval", args =>
      runText start fuel { isTested := c.isTested } (String.intercalate " " args)
    | "exec", args =>
      let (_, args) ← takeOptions "" args
      match args with
      | [] => return 0
      | argv =>
        let program := argv.head?.getD ""
        let path ←
          if program.contains '/' then pure (.ok program) else do findIn (← path) program
        match path with
        | .ok path =>
          match ← execute start path argv with
          | .ok ending => throw (.ended ending)
          | .error f => failed program f
        | .error f => failed program f
    | ".", args =>
      let (_, args) ← takeOptions "" args
      match args with
      | [] => return 0
      | path :: _ => runFile start fuel path
    | _, _ => return 0
where
  /-- Runs a program, or a file that is a script. -/
  execute (start : Starter) (path : String) (argv : List String) :
      Sh (Except Disk.Fault Ending) := do
    changeContext fun c => { c with replaces := true }
    match ← spawn start path (argv.head?.getD "") argv.tail with
    | .error .notExecutable => spawn start "/bin/sh" "/bin/sh" (path :: argv.tail)
    | result => return result
  /-- Complains that a program cannot take the place of the shell. -/
  failed (program : String) (f : Disk.Fault) : Sh Nat := do
    let missing := f = .notFound || f = .notDirectory || f = .nameTooLong || f = .tooManyLinks
    setStatus (if missing then 127 else 126)
    warn (program ++ ": " ++ startText f)
    throw .leave

/-- Carries out the script in a file. -/
def runFile (start : Starter) : Nat → String → Sh Nat
  | 0, _ => return 0
  | fuel + 1, name => do
    let path ←
      if name.contains '/' then pure name
      else do
        match ← findIn (← path) name with
        | .ok path => pure path
        | .error _ => fault (name ++ ": not found")
    match ← carry (Act.readFile path) with
    | .error .isDirectory => return 0
    | .error f =>
      let reason := if f = .notFound || f = .notDirectory then "No such file" else f.reason
      fault ("cannot open " ++ path ++ ": " ++ reason)
    | .ok text =>
      modify fun s => { s with command := some path }
      let status ← runText start fuel {} text
      if (← get).skip = .function then modify fun s => { s with skip := .nothing }
      return status

/-- Carries out a function. -/
def runFunction (start : Starter) : Nat → Circumstances → Script → List String → Sh Nat
  | 0, _, _, _ => return 0
  | fuel + 1, c, body, args => do
    let before ← get
    modify fun s => { s with args, loops := 0, optionSpot := (1, none) }
    let putBack : Sh Unit :=
      modify fun s =>
        { s with
          args := before.args
          loops := before.loops
          optionSpot := before.optionSpot
          skip := if s.skip = .function then .nothing else s.skip }
    let status ←
      tryCatch (run start fuel { isTested := c.isTested } body) fun halt => do
        putBack
        throw halt
    putBack
    return status

/-- Runs a program. -/
def runProgram (start : Starter) : Nat → Circumstances → Option String → List String → Sh Nat
  | 0, _, _, _ => return 0
  | _ + 1, c, list?, argv => do
    let name := argv.head?.getD ""
    let path? ←
      if name.contains '/' then pure (.ok name)
      else
        match list? with
        | none => locate name
        | some list => findIn list name
    match path? with
    | .error f =>
      warn (name ++ ": " ++ startText f)
      return 127
    | .ok path =>
      runJobs .soon
      let _ ← takePlace
      let replaces := c.isLast && !(← hasTraps)
      changeContext fun c => { c with replaces }
      let ending ← spawnAny start path argv
      runJobs .now
      if replaces then throw (.ended ending)
      settle ending

end

end Sh

/-- The depth of calls to which scripts are carried out. -/
def maxDepth : Nat := 1000000

end ContractBindings.Shell
