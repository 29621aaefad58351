import ContractBindings.Utility.Saying

/-!
# Starting others

The utilities that start other programs: in another environment, for a time, or with arguments from
their input.
-/

namespace ContractBindings.Utility

open Process
open Disk (Fault)

/-- The directories in which programs are sought where the environment does not tell. -/
def usualDirectories : String := "/bin:/usr/bin"

/-- Runs a program. Without a slash in its name it is sought in the directories of the environment.
A file that says nothing about how to run it is a script. -/
def launch (start : Starter) (argv : List String) : Act (Except Fault Ending) := do
  match argv with
  | [] => return .error .notFound
  | name :: args =>
    let run (path : String) : Act (Except Fault Ending) := do
      match ← start path { name, args } with
      | .error .notExecutable => start "/bin/sh" { name := "/bin/sh", args := path :: args }
      | result => return result
    if name.contains '/' then run name
    else if name.isEmpty then return .error .notFound
    else
      let directories := ((← get).context.environment.lookup "PATH").getD usualDirectories
      let rec search (denied : Bool) : List String → Act (Except Fault Ending)
        | [] => return .error (if denied then .permissionDenied else .notFound)
        | directory :: rest => do
          match ← run (Disk.Path.join directory name) with
          | .error .permissionDenied => search true rest
          | .error .notFound | .error .notDirectory => search denied rest
          | result => return result
      search false (directories.splitOn ":")

/-- The status for a program that did not start. -/
def startStatus (fault : Fault) : Nat := if fault = .notFound then 127 else 126

/-- Runs a program, or complains. -/
def launchOr (start : Starter) (argv : List String) (complaint : String → Fault → Act Unit) :
    Act Ending := do
  match ← launch start argv with
  | .ok ending => return ending
  | .error fault =>
    complaint (argv.head?.getD "") fault
    return .exit (startStatus fault)

/-- Runs a program in the place of this one, or complains. -/
def replaceBy (start : Starter) (argv : List String) (complaint : String → Fault → Act Unit) :
    Act Ending := do
  modify fun m => { m with context := { m.context with replaces := true } }
  launchOr start argv complaint

/-! ## Environments -/

/-- Changes the environment. -/
def changeEnvironment (f : List (String × String) → List (String × String)) : Act Unit :=
  modify fun m => { m with context := { m.context with environment := f m.context.environment } }

/-- Gives a variable a value. -/
def setVariable (name value : String) (environment : List (String × String)) :
    List (String × String) :=
  if environment.any (·.1 = name) then
    environment.map fun e => if e.1 = name then (name, value) else e
  else environment ++ [(name, value)]

/-- Takes the assignments off the start of arguments. -/
def takeAssignments : List String → List (String × String) × List String
  | [] => ([], [])
  | arg :: rest =>
    if arg.contains '=' then
      let name := String.ofList (arg.toList.takeWhile (· ≠ '='))
      let value := String.ofList (arg.toList.drop (name.length + 1))
      let (own, others) := takeAssignments rest
      ((name, value) :: own, others)
    else ([], arg :: rest)

/-- Runs a program in another environment, or says what is in it. -/
def env (start : Starter) (c : Call) : Act Ending := do
  let a ← understand c
    [named 'i' "ignore-environment", named 'u' "unset" .something, named 'C' "chdir" .something,
      named '0' "null", named 'S' "split-string" .something, named 'v' "debug"] 125 false
  let operands := (a.value? "S").elim a.operands fun s =>
    (s.splitOn " ").filter (!·.isEmpty) ++ a.operands
  let (bare, operands) : Bool × List String :=
    match operands with
    | "-" :: rest => (true, rest)
    | operands => (false, operands)
  if bare || a.has "i" then changeEnvironment fun _ => []
  for name in a.values "u" do changeEnvironment (·.filter (·.1 != name))
  let (assignments, argv) := takeAssignments operands
  for (name, value) in assignments do changeEnvironment (setVariable name value)
  match a.value? "C" with
  | none => pure ()
  | some path =>
    match (← get).disk.enter (Machine.pathText path) with
    | .ok d => modify fun m => { m with context := { m.context with here := d.here } }
    | .error fault =>
      c.complain ("cannot change directory to " ++ shellQuoted path ++ ": " ++ fault.reason)
      throw 125
  if argv.isEmpty then
    for (name, value) in (← get).context.environment do
      Act.say (name ++ "=" ++ value ++ if a.has "0" then "\x00" else "\n")
    return .exit 0
  else
    replaceBy start argv fun name fault => c.complain (shellQuoted name ++ ": " ++ fault.reason)

/-- Says the values of variables. -/
def printenv : Program := fun c => do
  let a ← understand c [named '0' "null"] 2 false
  let ending := if a.has "0" then "\x00" else "\n"
  let environment := (← get).context.environment
  if a.operands.isEmpty then
    for (name, value) in environment do Act.say (name ++ "=" ++ value ++ ending)
    return 0
  forEach (fun name => do
    match environment.lookup name with
    | some value =>
      Act.say (value ++ ending)
      return 0
    | none => return 1) a.operands

/-- Says where programs are. -/
def which : Program := fun c => do
  let all := c.args.head? = some "-a"
  let names := if all then c.args.tail else c.args
  if names.isEmpty then return 1
  let directories := ((← get).context.environment.lookup "PATH").getD usualDirectories
  forEach (fun name => do
    let paths :=
      if name.contains '/' then [name]
      else (directories.splitOn ":").map (Disk.Path.join · name)
    let mut found := false
    for path in paths do
      match ← Act.look path with
      | .ok (_, .file _ attributes) =>
        if attributes.mode &&& 0o111 ≠ 0 && (all || !found) then
          Act.sayLine path
          found := true
      | _ => pure ()
    return if found then 0 else 1) names

/-! ## Circumstances -/

/-- Runs a program that goes on when the terminal is gone. -/
def nohup (start : Starter) (c : Call) : Act Ending := do
  let a ← understand c [] 125 false
  if a.operands.isEmpty then c.misuse 125 "missing operand"
  replaceBy start a.operands fun name fault =>
    c.complain ("failed to run command " ++ shellQuoted name ++ ": " ++ fault.reason)

/-- Runs a program that others go before. -/
def nice (start : Starter) (c : Call) : Act Ending := do
  let args :=
    match c.args with
    | first :: rest =>
      match first.toList with
      | '-' :: d :: _ => if d.isDigit then rest else c.args
      | _ => c.args
    | [] => []
  let a ← understand { c with args } [named 'n' "adjustment" .something] 125 false
  if a.operands.isEmpty then
    Act.sayLine "0"
    return .exit 0
  replaceBy start a.operands fun name fault =>
    c.complain (shellQuoted name ++ ": " ++ fault.reason)

/-- Runs a program in a session of its own. -/
def setsid (start : Starter) (c : Call) : Act Ending := do
  let a ← understand c [named 'c' "ctty", named 'f' "fork", named 'w' "wait"] 1 false
  if a.operands.isEmpty then
    c.complain "no command specified"
    Act.giveUp 1 ("Try '" ++ c.name ++ " --help' for more information.")
  replaceBy start a.operands fun name fault =>
    c.complain ("failed to execute " ++ name ++ ": " ++ fault.reason)

/-- Runs a program with its streams held back in another way. -/
def stdbuf (start : Starter) (c : Call) : Act Ending := do
  let a ← understand c
    [named 'i' "input" .something, named 'o' "output" .something, named 'e' "error" .something] 125
    false
  if a.operands.isEmpty then c.misuse 125 "missing operand"
  replaceBy start a.operands fun name fault =>
    c.complain ("failed to run command " ++ shellQuoted name ++ ": " ++ fault.reason)

/-- The number of a signal by its name or number. -/
def signalNumber? (text : String) : Option Nat :=
  match natural? text with
  | some n => if n ≤ 64 then some n else none
  | none =>
    let name := text.toUpper
    let name := if name.startsWith "SIG" then String.ofList (name.toList.drop 3) else name
    if name = "EXIT" then some 0 else signals.lookup name

/-- Runs a program for a time. -/
def timeout (start : Starter) (c : Call) : Act Ending := do
  let a ← understand c
    [named 's' "signal" .something, named 'k' "kill-after" .something, word "foreground",
      word "preserve-status", named 'v' "verbose"] 125 false
  let usage {α : Type} : Act α :=
    Act.giveUp 125 ("Try '" ++ c.name ++ " --help' for more information.")
  let signal ←
    match a.value? "s" with
    | none => pure 15
    | some text =>
      match signalNumber? text with
      | some n => pure n
      | none => c.misuse 125 (textQuoted text ++ ": invalid signal")
  match a.operands with
  | duration :: command :: args =>
    let limit ← time duration
    let grace ← (a.value? "k").mapM time
    let isLimited := (Text.Quantity.read? duration.toList).any fun q =>
      match q.1 with
      | .finite x => x.magnitude.ratio.1 ≠ 0
      | _ => false
    let m ← get
    let owner := m.context.number
    -- Starting a program takes a moment, which does not count.
    let last := m.world.clock + limit + 1
    if isLimited then
      Act.setDeadline { time := last, signal, owner }
      if let some grace := grace then Act.setDeadline { time := last + grace, signal := 9, owner }
    let ending ← launchOr start (command :: args) fun name fault =>
      c.complain ("failed to run command " ++ shellQuoted name ++ ": " ++ fault.reason)
    let deadlines := (← get).world.deadlines
    let missed := if isLimited then 1 + grace.toList.length else 0
    let missed := missed - (deadlines.filter (·.owner = owner)).length
    let others := deadlines.filter (·.owner ≠ owner)
    modify fun m => { m with world := { m.world with deadlines := others } }
    if missed = 0 then return ending
    if a.has "v" then
      c.complain ("sending signal " ++ ((signalName? signal).getD "").drop 3 ++ " to command " ++
        textQuoted command)
    let isKilled := signal = 9 || 1 < missed
    if isKilled && !a.has "foreground" then return .signal 9
    let isKept := a.has "preserve-status" || ending = .signal 9
    return .exit (if isKept then ending.status else 124)
  | _ => usage
where
  /-- The moments that a text tells. -/
  time (text : String) : Act Nat := do
    match moments? text with
    | some n => return n
    | none => c.misuse 125 ("invalid time interval " ++ textQuoted text)

/-! ## Arguments from the input -/

/-- Cuts a text into arguments at blanks, which count for nothing in quotes or after a backslash.
With `byLines` only line ends count. The parts are the argument that is being read, if any, and
whether the line is over after an argument. -/
def inputArguments (byLines : Bool) :
    Nat → Option (List Char) → List Char → Except Char (List (String × Bool))
  | 0, _, _ => .ok []
  | fuel + 1, current, cs =>
    let close (lineEnds : Bool) (rest : List Char) : Except Char (List (String × Bool)) :=
      match current with
      | some word =>
        (inputArguments byLines fuel none rest).map ((String.ofList word.reverse, lineEnds) :: ·)
      | none => inputArguments byLines fuel none rest
    match cs with
    | [] =>
      match current with
      | some word => .ok [(String.ofList word.reverse, true)]
      | none => .ok []
    | '\n' :: rest => close true rest
    | '\\' :: c :: rest => inputArguments byLines fuel (some (c :: current.getD [])) rest
    | ['\\'] => inputArguments byLines fuel current []
    | c :: rest =>
      if c = '\'' || c = '"' then
        let inside := rest.takeWhile fun d => d ≠ c && d ≠ '\n'
        match rest.drop inside.length with
        | d :: rest =>
          if d = c then
            inputArguments byLines fuel (some (inside.reverse ++ current.getD [])) rest
          else .error c
        | [] => .error c
      else if c = ' ' || c = '\t' then
        if byLines && current.isSome then
          inputArguments byLines fuel (some (c :: current.getD [])) rest
        else if byLines then inputArguments byLines fuel none rest
        else close false rest
      else inputArguments byLines fuel (some (c :: current.getD [])) rest

/-- Cuts arguments into groups of a number. -/
def chunks (count : Nat) : Nat → List String → List (List String)
  | 0, _ => []
  | fuel + 1, args =>
    if args.isEmpty then [] else args.take count :: chunks count fuel (args.drop count)

/-- Cuts arguments into groups of a number of lines. -/
def lineChunks (count : Nat) : Nat → List String → List (String × Bool) → List (List String)
  | _, [], [] => []
  | _, current, [] => [current.reverse]
  | lines, current, (arg, lineEnds) :: rest =>
    if lineEnds && lines + 1 ≥ count then (arg :: current).reverse :: lineChunks count 0 [] rest
    else lineChunks count (if lineEnds then lines + 1 else lines) (arg :: current) rest

/-- Cuts arguments into groups that make commands of at most so many characters. -/
def sizeChunks (most base : Nat) : Nat → List String → List String → List (List String)
  | _, [], [] => []
  | _, current, [] => [current.reverse]
  | size, current, arg :: rest =>
    let next := size + arg.length + 1
    if most < next && !current.isEmpty then
      current.reverse :: sizeChunks most base (base + arg.length + 1) [arg] rest
    else sizeChunks most base next (arg :: current) rest

/-- The options of `xargs`. -/
def xargsSwitches : List Switch :=
  [named '0' "null", named 'a' "arg-file" .something, named 'd' "delimiter" .something,
    named 'n' "max-args" .something, named 'L' "max-lines" .something,
    named 'I' "replace" .something, named 'P' "max-procs" .something,
    named 's' "max-chars" .something, named 'E' "eof" .something, named 'r' "no-run-if-empty",
    named 't' "verbose", named 'x' "exit", named 'p' "interactive", named 'o' "open-tty",
    { letter := some 'i', takes := .perhaps }, { letter := some 'l', takes := .perhaps }]

/-- A number of at least one that an option has. -/
def atLeastOne (c : Call) (a : Arguments) (letter : Char) : Act (Option Nat) := do
  match a.value? (String.singleton letter) with
  | none => return none
  | some text =>
    match natural? text with
    | none =>
      c.misuse 1 ("invalid number \"" ++ text ++ "\" for -" ++ String.singleton letter ++ " option")
    | some 0 =>
      c.misuse 1 ("value 0 for -" ++ String.singleton letter ++ " option should be >= 1")
    | some n => return some n

/-- Runs a program with arguments from the input. -/
def xargs (start : Starter) (c : Call) : Act Ending := do
  let a ← understand c xargsSwitches 1 false
  let number (letter : Char) : Act (Option Nat) := atLeastOne c a letter
  let mark? : Option String :=
    match a.value? "I", a.value? "i" with
    | some text, _ => some text
    | none, some text => some (if text.isEmpty then "\x7b\x7d" else text)
    | none, none => none
  let count? ← number 'n'
  let lines? ← number 'L'
  let size? ← number 's'
  let input ←
    match a.value? "a" with
    | none => Act.readAll 0
    | some path => Act.readFile path
  let text ←
    match input with
    | .ok text => pure text
    | .error fault =>
      match a.value? "a" with
      | some path =>
        c.complain ("Cannot open input file " ++ shellQuoted path ++ ": " ++ fault.reason)
        throw 1
      | none => pure ""
  let separator? : Option Char :=
    if a.has "0" then some '\x00'
    else (a.value? "d").map fun d => (Text.unescape d).1.toList.head?.getD '\n'
  let broken (quote : Char) : Act Unit :=
    c.complain ("unmatched " ++ (if quote = '"' then "double" else "single") ++
      " quote; by default quotes are special to xargs unless you use the -0 option")
  let mut status := 0
  let items : List (String × Bool) ←
    match separator? with
    | some separator =>
      let parts := text.splitOn (String.singleton separator)
      pure ((if parts.getLast? = some "" then parts.dropLast else parts).map fun p => (p, true))
    | none =>
      match inputArguments mark?.isSome (2 * text.length + 2) none text.toList with
      | .ok items => pure items
      | .error quote =>
        broken quote
        status := 1
        let whole := String.ofList (text.toList.takeWhile (· ≠ quote))
        pure (((whole.splitOn " ").flatMap (·.splitOn "\n")).filterMap fun w =>
          if w.isEmpty then none else some (w, true))
  let items :=
    match a.value? "E" with
    | some stop => items.takeWhile (·.1 ≠ stop)
    | none => items
  let command := if a.operands.isEmpty then ["echo"] else a.operands
  let groups : List (List String) :=
    match mark? with
    | some mark =>
      items.map fun (item, _) =>
        (command.head?.toList) ++ command.tail.map fun arg =>
          if mark.isEmpty then arg else arg.replace mark item
    | none =>
      let words := items.map (·.1)
      let groups :=
        match count?, lines?, size? with
        | some n, _, _ => chunks n (words.length + 1) words
        | none, some n, _ => lineChunks n 0 [] items
        | none, none, some size =>
          let base := command.foldl (fun n w => n + w.length + 1) 0
          sizeChunks size base base [] words
        | none, none, none => if words.isEmpty then [] else [words]
      let groups := if groups.isEmpty && !a.has "r" then [[]] else groups
      groups.map (command ++ ·)
  let nothing ← Act.addOpenFile { channel := .device .null, reads := true }
  Act.setStream 0 (some nothing)
  for group in groups do
    if status < 124 && (← Act.killer?).isNone then
      if a.has "t" then Act.complain (String.intercalate " " (group.map shellText))
      match ← launch start group with
      | .error fault =>
        c.complain (shellText (group.head?.getD "") ++ ": " ++ fault.reason)
        status := startStatus fault
      | .ok (.signal n) =>
        c.complain (group.head?.getD "" ++ ": terminated by signal " ++ toString n)
        status := 125
      | .ok (.exit 255) =>
        c.complain (group.head?.getD "" ++ ": exited with status 255; aborting")
        status := 124
      | .ok (.exit 0) => pure ()
      | .ok (.exit _) => status := 123
  return .exit status

end ContractBindings.Utility
