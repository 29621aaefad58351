import ContractBindings.Shell.Setting

/-!
# Surroundings

The commands that deal with what is around a shell: the directory in which it works, the programs
that it can find, the processes beside it and the signals between them.
-/

namespace ContractBindings.Shell

open Process

namespace Sh

/-! ## Places -/

/-- The names on a path, without those that lead nowhere or back. -/
def straight (names : List String) : List String :=
  names.foldl (fun done name =>
    if name = "" || name = "." then done
    else if name = ".." then done.dropLast
    else done ++ [name]) []

/-- The path to which one leads from a directory, as it is written. -/
def straightPath (place path : String) : String :=
  let isAbsolute := path.startsWith "/"
  let whole := if isAbsolute then path else place ++ "/" ++ path
  let doubled := isAbsolute && path.startsWith "//" && !path.startsWith "///"
  (if doubled then "//" else "/") ++ String.intercalate "/" (straight (whole.splitOn "/"))

/-- Enters a directory, and remembers the one that was left. -/
def enter (physical : Bool) (path : String) : Sh Bool := do
  let s ← get
  let target := if physical then path else straightPath s.place path
  match s.machine.disk.walk (Machine.pathText target) .follow with
  | .ok (.node place node) =>
    if !node.isDir then return false
    changeContext fun c => { c with here := place }
    let after ← get
    let now := if physical then after.machine.workPath else target
    let found := after.found.map fun f => { f with stale := true }
    modify fun s => { s with place := now, found }
    assign "OLDPWD" (some s.place) true
    assign "PWD" (some now) true
    return true
  | _ => return false

/-- The directories of a list, with what is tried for a name in each. -/
def candidates (list name : String) : List (String × String) :=
  (list.splitOn ":").map fun directory =>
    (directory, if directory.isEmpty then name else directory ++ "/" ++ name)

/-- Enters a directory. -/
def changePlace : Builtin := fun args => do
  let (options, args) ← takeOptions "LP" args
  let physical := options.getLast?.any (·.1 = 'P')
  let (path, back) : String × Bool ←
    match args with
    | [] => do pure ((← lookup? "HOME").getD "", false)
    | "-" :: _ => do pure ((← lookup? "OLDPWD").getD "", true)
    | path :: _ => pure (path, false)
  let name := if path.isEmpty then "." else path
  let first := (name.splitOn "/").head?.getD ""
  let direct := path.startsWith "/" || first = "." || first = ".."
  let d := (← get).machine.disk
  let list ←
    if direct && !path.isEmpty then pure ""
    else do pure ((← lookup? "CDPATH").getD "")
  let (directory, target) :=
    ((candidates list name).find? fun c => d.isDir (Machine.pathText c.2)).getD ("", path)
  if !(← enter physical target) then fault ("can't cd to " ++ path)
  if back || !directory.isEmpty then say ((← get).place ++ "\n")
  return 0

/-- Says in which directory the shell works. -/
def tellPlace : Builtin := fun args => do
  let (options, _) ← takeOptions "LP" args
  let s ← get
  say ((if options.getLast?.any (·.1 = 'P') then s.machine.workPath else s.place) ++ "\n")
  return 0

/-! ## Programs -/

/-- What a shell carries out itself and cannot be replaced. -/
def specialNames : List String :=
  [".", ":", "break", "continue", "eval", "exec", "exit", "export", "local", "readonly", "return",
    "set", "shift", "times", "trap", "unset"]

/-- What a shell carries out itself. -/
def builtinNames : List String :=
  specialNames ++ ["[", "alias", "bg", "cd", "chdir", "command", "echo", "false", "fg", "getopts",
    "hash", "jobs", "kill", "printf", "pwd", "read", "test", "true", "type", "ulimit", "umask",
    "unalias", "wait"]

/-- The list of directories in which programs are looked for if there is no other. -/
def usualPath : String := "/usr/local/sbin:/usr/local/bin:/usr/sbin:/usr/bin:/sbin:/bin"

/-- Looks for a program in the directories of a list. -/
def findIn (list name : String) : Sh (Except Disk.Fault String) := do
  let d := (← get).machine.disk
  let mut fault : Disk.Fault := .notFound
  for (_, path) in candidates list name do
    match d.node (Machine.pathText path) with
    | .ok node =>
      if node.isFile then return .ok path
      fault := .permissionDenied
    | .error .notFound | .error .notDirectory => pure ()
    | .error other => fault := other
  return .error fault

/-- What is said of a program that cannot be started. -/
def startText : Disk.Fault → String
  | .notFound | .notDirectory => "not found"
  | fault => fault.reason

/-- The list of directories in which programs are looked for. -/
def path : Sh String := return (← lookup? "PATH").getD ""

/-- Looks for a program, unless it has been found already, and remembers where it is. -/
def locate (name : String) : Sh (Except Disk.Fault String) := do
  match (← get).found.find? fun f => f.name = name && !f.stale with
  | some f => return .ok f.path
  | none =>
    let result ← findIn (← path) name
    modify fun s =>
      match result with
      | .ok path =>
        let now : Found := { name, path }
        if s.found.any (·.name = name) then
          { s with found := s.found.map fun f => if f.name = name then now else f }
        else { s with found := s.found ++ [now] }
      | .error _ => { s with found := s.found.filter (·.name != name) }
    return result

/-- The place of a name in the order in which programs that have been found are listed. -/
def drawer (name : String) : Nat :=
  let first := (name.toList.head?.map Char.toNat).getD 0
  (name.toList.foldl (fun n c => n + c.toNat) (first * 16)) % 32768 % 31

/-- Tells what a name would start. -/
def describe (verbose : Bool) (list : Option String) (name : String) : Sh Nat := do
  let s ← get
  let found (text brief : String) : Sh Nat := do
    say (if verbose then name ++ text ++ "\n" else brief ++ "\n")
    return 0
  if name ∈ keywords then found " is a shell keyword" name
  else
    match s.aliases.lookup name with
    | some value => found (" is an alias for " ++ value) ("alias " ++ name ++ "=" ++ quoted value)
    | none =>
      if (s.functions.lookup name).isSome then found " is a shell function" name
      else if name ∈ specialNames then found " is a special shell builtin" name
      else if name ∈ builtinNames then found " is a shell builtin" name
      else
        match s.found.find? (·.name = name) with
        | some f => found (" is a tracked alias for " ++ f.path) f.path
        | none =>
          let place ←
            if name.contains '/' then
              match s.machine.disk.node (Machine.pathText name) with
              | .ok _ => pure (.ok name)
              | .error fault => pure (.error fault)
            else
              match list with
              | none => locate name
              | some list => findIn list name
          match place with
          | .ok path => found (" is " ++ path) path
          | .error _ =>
            if verbose then say (name ++ ": not found\n")
            return 127

/-- Tells what names would start. -/
def type : Builtin := fun args => do
  let mut status := 0
  for name in args do
    status := status ||| (← describe true none name)
  return status

/-- Says which programs have been found, or forgets them, or finds some. -/
def hash : Builtin := fun args => do
  let (options, names) ← takeOptions "rv" args
  if options.any (·.1 = 'r') then
    modify fun s => { s with found := [] }
    return 0
  if names.isEmpty then
    for f in (← get).found.mergeSort fun a b => decide (drawer a.name ≤ drawer b.name) do
      say (f.path ++ (if f.stale then "*" else "") ++ "\n")
    return 0
  let mut status := 0
  for name in names do
    modify fun s => { s with found := s.found.filter (·.name != name) }
    let isKnown := name.contains '/' || name ∈ builtinNames
    match ← if isKnown then pure (.ok name) else locate name with
    | .ok _ => pure ()
    | .error fault =>
      warn (name ++ ": " ++ startText fault)
      status := 1
  return status

/-! ## The mask -/

/-- The bits of letters in a symbolic mask. -/
def maskBits (letters : List Char) : Option Nat :=
  letters.foldl (fun bits c =>
    match bits, c with
    | some n, 'r' => some (n ||| 4)
    | some n, 'w' => some (n ||| 2)
    | some n, 'x' => some (n ||| 1)
    | _, _ => none) (some 0)

/-- Applies a clause of a symbolic mask to the bits that new files get. -/
def applyClause (allowed : Nat) (clause : String) : Option Nat :=
  let cs := clause.toList
  let who := cs.takeWhile (· ∈ ['u', 'g', 'o', 'a'])
  let among (n : Nat) : Nat :=
    let all := who.isEmpty || who.contains 'a'
    (if all || who.contains 'u' then n * 64 else 0) +
      (if all || who.contains 'g' then n * 8 else 0) +
      if all || who.contains 'o' then n else 0
  match cs.drop who.length with
  | operator :: letters =>
    match maskBits letters, operator with
    | some n, '=' => some ((allowed - (allowed &&& among 7)) ||| among n)
    | some n, '+' => some (allowed ||| among n)
    | some n, '-' => some (allowed - (allowed &&& among n))
    | _, _ => none
  | [] => none

/-- The mask in letters. -/
def maskText (allowed : Nat) : String :=
  let part (who : String) (n : Nat) : String :=
    who ++ "=" ++ (if n &&& 4 ≠ 0 then "r" else "") ++ (if n &&& 2 ≠ 0 then "w" else "") ++
      if n &&& 1 ≠ 0 then "x" else ""
  part "u" (allowed / 64 % 8) ++ "," ++ part "g" (allowed / 8 % 8) ++ "," ++ part "o" (allowed % 8)

/-- Sets or says the mask for new files. -/
def umask : Builtin := fun args => do
  let (options, args) ← takeOptions "S" args
  let mask := (← get).machine.context.mask
  match args with
  | [] =>
    if options.isEmpty then
      say (Text.Format.natural { width := 4, zeros := true } 8 false mask ++ "\n")
    else say (maskText (0o777 - mask) ++ "\n")
  | text :: _ =>
    let mask ←
      if text.toList.head?.any Char.isDigit then
        if text.toList.all fun c => '0' ≤ c && c ≤ '7' then pure (digitsOf 8 text.toList).1
        else fault ("Illegal number: " ++ text)
      else
        let allowed := (text.splitOn ",").foldl (fun allowed clause =>
          allowed.bind (applyClause · clause)) (some (0o777 - mask))
        match allowed with
        | some allowed => pure (0o777 - allowed)
        | none => fault ("Illegal mode: " ++ text)
    changeContext fun c => { c with mask := mask % 0o1000 }
  return 0

/-- Says or sets a limit. There is none before. -/
def ulimit : Builtin := fun args => do
  let (options, args) ← takeOptions "HSatfdsmcnpvlwr" args
  let isSort (letter : Char) : Bool := !("HSa".toList.contains letter)
  let sort := (options.reverse.find? fun o => isSort o.1).elim 'f' (·.1)
  match args with
  | [] =>
    say (((← get).limits.lookup sort).elim "unlimited" toString ++ "\n")
    return 0
  | text :: rest =>
    if !rest.isEmpty || options.any (·.1 = 'a') then fault "too many arguments"
    let others := (← get).limits.filter (·.1 != sort)
    if text = "unlimited" then modify fun s => { s with limits := others }
    else if text.toList.all Char.isDigit then
      modify fun s => { s with limits := (sort, text.toNat?.getD 0) :: others }
    else fault "bad number"
    return 0

/-- Says how much time was used, which is none. -/
def times : Builtin := fun _ => do
  say "0m0.000000s 0m0.000000s\n0m0.000000s 0m0.000000s\n"
  return 0

/-! ## Processes -/

/-- The name of a signal; zero stands for the end of the shell. -/
def signalName (n : Nat) : String :=
  if n = 0 then "EXIT"
  else if n = 16 then "16"
  else if n = 29 then "IO"
  else
    match signals.find? (·.2 == n) with
    | some s => s.1
    | none =>
      if n < 34 || 64 < n then toString n
      else if n = 34 then "RTMIN"
      else if n < 50 then "RTMIN+" ++ toString (n - 34)
      else if n < 64 then "RTMAX-" ++ toString (64 - n)
      else "RTMAX"

/-- The signal with a number or a name. -/
def signal? (least : Nat) (text : String) : Option Nat :=
  if !text.isEmpty && text.toList.all Char.isDigit then text.toNat?.filter (· < 65)
  else
    let name := String.ofList (text.toList.map Char.toUpper)
    ((List.range 65).find? fun n => signalName n = name).filter (least ≤ ·)

/-- Sets what is done on signals, or says it. -/
def trap : Builtin := fun args => do
  let (_, args) ← takeOptions "" args
  match args with
  | [] =>
    for (n, action) in (← get).traps.mergeSort fun a b => decide (a.1 ≤ b.1) do
      say ("trap -- " ++ quoted action ++ " " ++ signalName n ++ "\n")
    return 0
  | first :: rest =>
    let isNumber := !first.isEmpty && first.toList.all Char.isDigit && (signal? 0 first).isSome
    let (action, names) : Option String × List String :=
      if rest.isEmpty || isNumber then (none, args)
      else (if first = "-" then none else some first, rest)
    for name in names do
      match signal? 0 name with
      | none =>
        carry (Act.complain ("trap: " ++ name ++ ": bad trap"))
        return 1
      | some n =>
        modify fun s =>
          let others := s.traps.filter (·.1 != n)
          { s with traps := action.elim others fun a => (n, a) :: others }
        if n ≠ 0 then
          changeContext fun c =>
            let others := c.ignored.filter (· != n)
            { c with ignored := if action = some "" then n :: others else others }
    return 0

/-- Lets the commands beside the shell that would be over go on to their ends, in the order in which
they end. -/
def runJobs (last : Until) : Sh Unit := do
  let s ← get
  if s.jobs.all (·.ending.isSome) then return
  let world := s.machine.world
  let jobs := s.jobs.map fun job =>
    if job.ending.isSome || job.due.isSome then job
    else { job with due := some (job.runSince world).1.clock }
  MonadState.set { s with jobs }
  let due (job : Job) : Nat := job.due.getD job.since
  let ended := jobs.filter fun job => job.ending.isNone && last.covers world.clock (due job)
  for job in ended.mergeSort fun a b => decide (due a ≤ due b) do
    let s ← get
    let now := s.machine.world.clock
    let (world, ending) := job.runSince s.machine.world
    let world := { world with clock := max now world.clock }
    let jobs := s.jobs.map fun j => if j.number = job.number then { j with ending } else j
    MonadState.set { s with machine := { s.machine with world }, jobs }

/-- The first place that a new job can take. A job that was there is forgotten. -/
def takePlace : Sh Nat := do
  let s ← get
  let isTaken (place : Nat) : Bool := s.jobs.any fun j => j.place = place && !j.isAwaited
  let place := ((List.range (s.jobs.length + 1)).map (· + 1)).find? fun p => !isTaken p
  let place := place.getD (s.jobs.length + 1)
  MonadState.set { s with jobs := s.jobs.filter fun j : Job => j.place != place }
  return place

/-- The number of the process of a job, given by its number or by its place. -/
def jobNumber (text : String) : Sh Nat := do
  match text.toList with
  | '%' :: cs =>
    let jobs : List Job := (← get).jobs
    let found :=
      match (String.ofList cs).toNat? with
      | some n => jobs.find? fun (j : Job) => j.place = n
      | none => if cs ∈ [[], ['%'], ['+']] then jobs.getLast? else none
    match found with
    | some job => return job.number
    | none =>
      if cs ∈ [[], ['%'], ['+']] then fault "No current job"
      else fault ("No such job: " ++ text)
  | _ => count text

/-- How a job stands, in words. -/
def jobState (job : Job) : String :=
  match job.ending with
  | none => "Running"
  | some (.exit 0) => "Done"
  | some (.exit n) => "Done(" ++ toString n ++ ")"
  | some (.signal n) => signalText n

/-- Says how the commands beside the shell stand, the last first. What is over is forgotten. -/
def jobs : Builtin := fun args => do
  let (options, args) ← takeOptions "lp" args
  let all := (← get).jobs
  let wanted ← args.mapM jobNumber
  let shown := if args.isEmpty then all.reverse else all.filter fun j => wanted.contains j.number
  for job in shown do
    let later := (all.dropWhile (·.number ≠ job.number)).length
    let mark := if later = 1 then "+" else if later = 2 then "-" else " "
    let number := toString job.number
    if options.any (·.1 = 'p') then say (number ++ "\n")
    else
      let head := "[" ++ toString job.place ++ "] " ++ mark ++ " " ++
        (if options.any (·.1 = 'l') then number ++ " " else "") ++ jobState job
      say (head ++ Text.Format.repeated ' ' (max 1 (33 - head.length)) ++ "\n")
  modify fun s =>
    { s with jobs := s.jobs.filter fun j => j.ending.isNone || !shown.any (·.number = j.number) }
  return 0

/-- Tells which signal has ended a program. -/
def tellSignal : Ending → Sh Unit
  | .exit _ => return
  | .signal n => do if n ≠ 2 && n ≠ 13 then carry (Act.complain (signalText n))

/-- Waits for the commands beside the shell. -/
def wait : Builtin := fun args => do
  let (_, args) ← takeOptions "" args
  if args.isEmpty then
    runJobs .ever
    modify fun s => { s with jobs := s.jobs.map fun j => { j with isAwaited := true } }
    return 0
  let mut status := 127
  for text in args do
    let number ← jobNumber text
    if (← get).jobs.any (·.number = number) then
      runJobs .now
      if let some job := (← get).jobs.find? (·.number = number) then
        runJobs (.time (job.due.getD 0))
      let s ← get
      if let some job := s.jobs.find? (·.number = number) then
        let ending := job.ending.getD (.exit 127)
        if !job.isNoted then tellSignal ending
        status := ending.status
      let await (j : Job) : Job := if j.number = number then { j with isAwaited := true } else j
      modify fun s => { s with jobs := s.jobs.map await }
  return status

/-- Sends a signal to a process. -/
def send (signal number : Nat) : Sh Bool := do
  let s ← get
  let deadly := !isHarmless signal
  if s.jobs.any (·.number = number) then
    let ended (job : Job) : Job :=
      if job.number = number && job.ending.isNone && deadly then
        { job with ending := some (.signal signal) }
      else job
    MonadState.set { s with jobs := s.jobs.map ended }
    return true
  else if number ∈ s.machine.world.alive then
    if signal ≠ 0 then
      let world := s.machine.world
      let signals := (number, signal) :: world.signals
      MonadState.set { s with machine := { s.machine with world := { world with signals } } }
    return true
  else return false

/-- Sends signals, or says their names. -/
def kill : Builtin := fun args => do
  let usage {α : Type} : Sh α :=
    fault "Usage: kill [-s sigspec | -signum | -sigspec] [pid | job]... or\nkill -l [exitstatus]"
  let (signal, list, args) : Option Nat × Bool × List String ←
    match args with
    | [] => usage
    | first :: rest =>
      match first.toList with
      | '-' :: name => do
        match signal? 1 (String.ofList name) with
        | some n => pure (some n, false, rest)
        | none =>
          let (options, rest) ← takeOptions "ls:" args
          let mut signal := none
          let mut list := false
          for (letter, value) in options do
            if letter = 'l' then list := true
            else
              signal := signal? 1 value
              if signal.isNone then fault ("invalid signal number or name: " ++ value)
          pure (signal, list, rest)
      | _ => pure (none, false, args)
  if list then
    if signal.isSome then usage
    match args with
    | [] =>
      say "0\n"
      for n in List.range 64 do say (signalName (n + 1) ++ "\n")
      return 0
    | text :: _ =>
      let n ← count text
      let n := if 128 < n then n - 128 else n
      if n = 0 || 65 ≤ n then fault ("invalid signal number or exit status: " ++ text)
      say (signalName n ++ "\n")
      return 0
  else
    if args.isEmpty then usage
    let mut status := 0
    for text in args do
      let number ←
        match text.toList with
        | '-' :: cs => do
          let _ ← count (String.ofList cs)
          pure 0
        | '%' :: _ => do
          let _ ← jobNumber text
          pure 0
        | _ => count text
      if !(← send (signal.getD 15) number) then
        warn "No such process\n"
        status := 1
    return status

end Sh

end ContractBindings.Shell
