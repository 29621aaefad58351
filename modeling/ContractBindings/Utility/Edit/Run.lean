import ContractBindings.Utility.Edit.Reader
import ContractBindings.Utility.Lines

/-!
# Editing

Carries out an edit script on inputs. `sed` says the result, or writes it back.
-/

namespace ContractBindings.Utility.Edit

open Process
open Text (Regex Subject)

/-- How far a command is in its range of lines. -/
inductive RangeState where
  | idle
  /-- Up to the end that the range asks for. -/
  | active
  /-- Up to a line. -/
  | upTo (line : Nat)
  deriving DecidableEq

/-- What comes after the current line. -/
inductive Added where
  | text (text : String)
  | file (path : String)
  /-- A line that may lack its end. -/
  | line (text : String)

/-- How the utility was asked to work. -/
structure Manner where
  silent : Bool := false
  /-- Each file is an input of its own. -/
  separate : Bool := false
  /-- Files are written back, and kept under a name with this at its end. -/
  backup : Option String := none
  width : Nat := 70
  terminator : Char := '\n'

/-- An editor at work. -/
structure Editor where
  manner : Manner
  script : Script
  space : String := ""
  /-- The line in the pattern space has a line end. -/
  ended : Bool := true
  hold : String := ""
  holdEnded : Bool := true
  number : Nat := 0
  /-- The inputs that have not been opened. -/
  paths : List String
  /-- The lines that are left of the input that is open. -/
  lines : List String := []
  /-- The name of the input that is open. -/
  name : String := "-"
  ranges : Array RangeState
  replaced : Bool := false
  added : List Added := []
  /-- Files that are written to, with their streams. -/
  targets : List (String × Nat) := []
  /-- Streams to which a line without its end was written. -/
  unended : List Nat := []
  /-- The lines that are left of files that are read line by line. -/
  sources : List (String × List String) := []
  lastPattern : Option Pattern := none
  /-- The stream for what the script says. -/
  output : Nat := 1
  /-- The file that is being written back. -/
  backTo : Option String := none
  status : Nat := 0

/-- Steps of an editor. -/
abbrev Edits := StateT Editor Act

namespace Edits

/-- Ends the utility with a complaint. -/
def giveUp {α : Type} (status : Nat) (text : String) : Edits α := do
  Act.complain ("sed: " ++ text)
  throw status

/-! ## Output -/

/-- Writes to a stream. What goes to the output is held back. -/
def put (stream : Nat) (text : String) : Edits Unit := do
  if stream = 1 then Act.say text
  else let _ ← Act.write stream text

/-- Writes a line end that is missing. -/
def endLine (stream : Nat) : Edits Unit := do
  let s ← get
  if s.unended.contains stream then
    put stream (String.singleton s.manner.terminator)
    set { s with unended := s.unended.filter (· != stream) }

/-- Writes a text after a whole line. -/
def putText (stream : Nat) (text : String) : Edits Unit := do
  endLine stream
  put stream text

/-- Writes a line, with its end if it has one. -/
def putLine (stream : Nat) (text : String) (ended : Bool) : Edits Unit := do
  endLine stream
  put stream text
  if ended then put stream (String.singleton (← get).manner.terminator)
  else modify fun s => { s with unended := stream :: s.unended }

/-- Writes the pattern space. -/
def putSpace (stream : Nat) : Edits Unit := do
  let s ← get
  putLine stream s.space s.ended

/-- Cuts a text into lines that end in a character. -/
def cut (terminator : Char) (text : String) : List String :=
  if terminator = '\n' then linesOf text
  else
    let flip (c : Char) : Char :=
      if c = terminator then '\n' else if c = '\n' then terminator else c
    (linesOf (String.ofList (text.toList.map flip))).map fun l => String.ofList (l.toList.map flip)

/-- Writes what was added to the current line. -/
def putAdded : Edits Unit := do
  let s ← get
  set { s with added := [] }
  for a in s.added do
    match a with
    | .text text => putText s.output text
    | .line text => putLine s.output (chomp text) (text.endsWith "\n")
    | .file path =>
      match ← (readInput (if path = "/dev/stdin" then "-" else path) : Act _) with
      | .ok text => if !text.isEmpty then putText s.output text
      | .error .isDirectory => giveUp 4 ("read error on " ++ path ++ ": Is a directory")
      | .error _ => pure ()

/-! ## Input -/

/-- Writes back what has become of a file. -/
def closeBack : Edits Unit := do
  let s ← get
  match s.backTo with
  | none => return
  | some path =>
    let held := (← (get : Act Machine)).context.held
    modify fun s => { s with backTo := none, unended := s.unended.filter (· != 1) }
    let text := String.join held.reverse
    let _ ← (do
      modify fun m => { m with context := { m.context with held := [] } }
      match ← Act.look path with
      | .ok (place, .file bytes attributes) =>
        let others := Text.ofOctets (s.manner.backup.getD "")
        if !others.isEmpty then
          let name := (place.getLast?).getD ""
          let kept :=
            if others.toList.contains '*' then
              String.join (others.toList.map fun c => if c = '*' then name else String.singleton c)
            else name ++ others
          modify fun m => m.put (place.dropLast ++ [kept]) (.file bytes attributes)
        modify fun m => m.put place
          (.file (Text.octetBytes text) { attributes with identity := 0, time := m.world.clock })
      | _ => return : Act Unit)

/-- Opens the next input. -/
def openNext : Nat → Edits Bool
  | 0 => return false
  | fuel + 1 => do
    closeBack
    let s ← get
    match s.paths with
    | [] => return false
    | path :: paths =>
      set { s with paths }
      let back := s.manner.backup.isSome && path ≠ "-"
      match ← (readInput path : Act _) with
      | .ok text =>
        let restart := s.manner.separate || back
        if back then (Act.sendHeld : Act Unit)
        modify fun s => { s with
          lines := cut s.manner.terminator text
          name := path
          number := if restart then 0 else s.number
          backTo := if back then some path else none }
        if (← get).lines.isEmpty then openNext fuel else return true
      | .error fault =>
        if fault = .isDirectory then
          if back then
            Act.complain ("sed: couldn't edit " ++ path ++ ": not a regular file")
            modify fun s => { s with status := 4 }
          else giveUp 4 ("read error on " ++ path ++ ": " ++ fault.reason)
        else
          Act.complain ("sed: can't read " ++ path ++ ": " ++ fault.reason)
          modify fun s => { s with status := 2 }
        openNext fuel

/-- Whether some input that has not been opened has a line. -/
def hasMore : List String → Edits Bool
  | [] => return false
  | path :: paths => do
    match ← (if path = "-" then Act.unread 0 else do
        match ← Act.readFile path with
        | .ok text => return .ok (Text.octetBytes text)
        | .error fault => return .error fault : Act (Except Disk.Fault ByteArray)) with
    | .ok bytes => if bytes.isEmpty then hasMore paths else return true
    | .error _ => hasMore paths

/-- Whether the current line is the last one. -/
def atLast : Edits Bool := do
  let s ← get
  if !s.lines.isEmpty then return false
  if s.manner.separate || s.manner.backup.isSome then return true
  return !(← hasMore s.paths)

/-- Takes the next line, if there is one. -/
def takeLine : Edits (Option (String × Bool)) := do
  if (← get).lines.isEmpty then let _ ← openNext ((← get).paths.length + 1)
  let s ← get
  match s.lines with
  | [] => return none
  | line :: lines =>
    set { s with lines, number := s.number + 1, replaced := s.replaced }
    let cs := line.toList
    if cs.getLast? = some s.manner.terminator then return some (String.ofList cs.dropLast, true)
    else return some (line, false)

/-- Reads the next line into the pattern space. -/
def readSpace : Edits Bool := do
  putAdded
  match ← takeLine with
  | none => return false
  | some (space, ended) =>
    modify fun s => { s with space, ended, replaced := false }
    return true

/-! ## Selection -/

/-- The pattern to use, which is the last one if none is given. -/
def known (p : Pattern) : Edits Pattern := do
  if p.regex.isSome then
    modify fun s => { s with lastPattern := some p }
    return p
  else
    match (← get).lastPattern with
    | some p => return p
    | none => giveUp 1 "-e expression #1, char 0: no previous regular expression"

/-- The first match of a pattern in the pattern space, from a place on. -/
def find? (p : Pattern) (text : String) (first : Nat) :
    Option (Subject × Regex.Found) :=
  let s : Subject :=
    { text := text.toList.toArray, ignoresCase := p.ignoresCase, hasLines := p.hasLines }
  (p.regex.bind fun r => r.find? s first).map fun f => (s, f)

/-- The current line is one that an address selects. -/
def meets : Address → Edits Bool
  | .line n => return (← get).number = n
  | .step first step => do
    let n := (← get).number
    return first ≤ n && (n - first) % step = 0
  | .last => atLast
  | .pattern p => do
    let p ← known p
    return (find? p (← get).space 0).isSome

/-- Notes how far a command is in its range. -/
def setRange (index : Nat) (state : RangeState) : Edits Unit :=
  modify fun s => { s with ranges := s.ranges.setIfInBounds index state }

/-- Begins a range at the current line. -/
def beginRange (index : Nat) (last : RangeEnd) : Edits Unit := do
  let n := (← get).number
  let upTo (line : Nat) : Edits Unit := setRange index (if n < line then .upTo line else .idle)
  match last with
  | .at (.line line) => upTo line
  | .at _ => setRange index .active
  | .more count => upTo (n + count)
  | .multiple number => upTo (if number = 0 then n else (n + number - 1) / number * number)

/-- Whether a command applies to the current line. -/
def selects (index : Nat) (own : Selection) : Edits Bool := do
  let plain ←
    match own.first, own.last with
    | none, _ => pure true
    | some first, none => meets first
    | some first, some last => do
      let begin : Edits Bool := do
        if ← meets first then
          beginRange index last
          return true
        else return false
      match ((← get).ranges[index]?).getD .idle with
      | .idle => begin
      | .upTo line => do
        let n := (← get).number
        if line ≤ n then setRange index .idle
        if n ≤ line then pure true else begin
      | .active => do
        match last with
        | .at address => if ← meets address then setRange index .idle
        | _ => pure ()
        pure true
  return plain != own.negated

/-! ## Replacing -/

/-- How the next letters of a replacement are written. -/
structure Casing where
  all : Option CaseShift := none
  next : Option CaseShift := none

/-- Writes letters in the case that is asked for. -/
def Casing.write (s : Casing) (text : String) : String × Casing :=
  let shifted (how : Option CaseShift) (c : Char) : Char :=
    match how with
    | some .upper | some .nextUpper => c.toUpper
    | some .lower | some .nextLower => c.toLower
    | _ => c
  match text.toList with
  | [] => (text, s)
  | c :: cs =>
    let first := if s.next.isSome then shifted s.next c else shifted s.all c
    (String.ofList (first :: cs.map (shifted s.all)), { s with next := none })

/-- What a replacement comes to for a match. -/
def expand (s : Subject) (f : Regex.Found) : Casing → List Piece → String
  | _, [] => ""
  | casing, .shift shift :: rest =>
    match shift with
    | .upper | .lower => expand s f { casing with all := some shift } rest
    | .stop => expand s f {} rest
    | .nextUpper | .nextLower => expand s f { casing with next := some shift } rest
  | casing, .text text :: rest =>
    let (own, casing) := casing.write text
    own ++ expand s f casing rest
  | casing, .group number :: rest =>
    let (own, casing) := casing.write (f.group s number)
    own ++ expand s f casing rest

/-- Replaces matches from a place on. `count` counts the matches before, and `after` is where the
last one ended. The second part of the result tells whether anything was replaced. -/
def replaceFrom (sub : Substitution) (p : Pattern) (text : String) :
    Nat → Nat → Nat → Option Nat → List String × Bool
  | 0, _, _, _ => ([], false)
  | fuel + 1, start, count, after =>
    let size := text.length
    let rest (s : Nat) : String := String.ofList (text.toList.drop s)
    match find? p text start with
    | none => ([rest start], false)
    | some (s, f) =>
      let before := s.part start f.first
      if f.first = f.last && after = some f.first then
        -- No empty match directly after another match.
        if size ≤ f.first then ([before], false)
        else
          let (others, any) := replaceFrom sub p text fuel (f.first + 1) count none
          (before :: s.part f.first (f.first + 1) :: others, any)
      else
        let count := count + 1
        let replaces := sub.which ≤ count
        let own := if replaces then expand s f {} sub.pieces else s.part f.first f.last
        if replaces && !sub.all then ([before, own, rest f.last], true)
        else if f.first = f.last then
          if size ≤ f.first then ([before, own], replaces)
          else
            let (others, any) := replaceFrom sub p text fuel (f.first + 1) count none
            (before :: own :: s.part f.first (f.first + 1) :: others, any || replaces)
        else
          let (others, any) := replaceFrom sub p text fuel f.last count (some f.last)
          (before :: own :: others, any || replaces)

/-- The stream of a file that is written to. -/
def targetOf (path : String) : Edits Nat := do
  let s ← get
  return if path = "/dev/stdout" then s.output
    else if path = "/dev/stderr" then 2
    else (s.targets.lookup path).getD s.output

/-- Replaces what a pattern matches in the pattern space. -/
def substitute (sub : Substitution) : Edits Unit := do
  let p ← known sub.pattern
  let s ← get
  let (parts, any) := replaceFrom sub p s.space (s.space.length + 2) 0 0 none
  if any then
    modify fun s => { s with space := String.join parts, replaced := true }
    if sub.prints then putSpace s.output
    match sub.file with
    | some path => putSpace (← targetOf path)
    | none => return

/-! ## Commands -/

/-- A line in a visible form, cut into parts of a width. -/
def shown (width : Nat) (text : String) : String :=
  let escape (c : Char) : List Char :=
    if c = '\\' then ['\\', '\\']
    else if ' ' ≤ c && c ≤ '~' then [c]
    else
      match controlLetter? c with
      | some letter => ['\\', letter]
      | none =>
        let digit (n : Nat) : Char := Char.ofNat ('0'.toNat + n % 8)
        ['\\', digit (c.toNat / 64), digit (c.toNat / 8), digit c.toNat]
  let rec go (column : Nat) : List (List Char) → List Char
    | [] => ['$', '\n']
    | cs :: rest =>
      if width ≥ 2 && width - 1 < column + cs.length && column ≠ 0 then
        '\\' :: '\n' :: cs ++ go cs.length rest
      else cs ++ go (column + cs.length) rest
  String.ofList (go 0 (text.toList.map escape))

/-- The part of the pattern space up to its first line end, and what comes after that. -/
def firstLine (space : String) : String × Option String :=
  let cs := space.toList
  let first := cs.takeWhile (· ≠ '\n')
  match cs.drop first.length with
  | [] => (space, none)
  | _ :: rest => (String.ofList first, some (String.ofList rest))

/-- Where a script goes on after a command. -/
inductive Onward where
  | next
  | to (place : Nat)
  /-- The cycle is over, and the pattern space is said. -/
  | cycleEnd
  /-- The cycle is over. -/
  | drop
  /-- The next cycle begins without reading a line. -/
  | again
  | stop (status : Nat)

/-- Carries out a command that applies. -/
def act (index : Nat) (c : Command) : Edits Onward := do
  let s ← get
  let jump (label : String) : Onward :=
    if label.isEmpty then .cycleEnd else .to ((s.script.labels.lookup label).getD 0)
  let add (a : Added) : Edits Unit := modify fun s => { s with added := s.added ++ [a] }
  match c.action with
  | .block _ | .nothing => return .next
  | .sayNumber =>
    putText s.output (toString s.number ++ "\n")
    return .next
  | .append text =>
    add (.text text)
    return .next
  | .insert text =>
    putText s.output text
    return .next
  | .change text =>
    let inRange := c.selection.last.isSome && !c.selection.negated &&
      s.ranges[index]? ≠ some .idle
    if !inRange then putText s.output text
    return .drop
  | .branch label => return jump label
  | .branchIf label =>
    if s.replaced then
      set { s with replaced := false }
      return jump label
    else return .next
  | .branchUnless label =>
    if s.replaced then
      set { s with replaced := false }
      return .next
    else return jump label
  | .delete => return .drop
  | .deleteFirst =>
    match firstLine s.space with
    | (_, none) => return .drop
    | (_, some rest) =>
      set { s with space := rest }
      return .again
  | .get =>
    set { s with space := s.hold, ended := s.holdEnded }
    return .next
  | .getMore =>
    set { s with space := s.space ++ "\n" ++ s.hold }
    return .next
  | .hold =>
    set { s with hold := s.space, holdEnded := s.ended }
    return .next
  | .holdMore =>
    set { s with hold := s.hold ++ "\n" ++ s.space }
    return .next
  | .exchange =>
    set { s with space := s.hold, ended := s.holdEnded, hold := s.space, holdEnded := s.ended }
    return .next
  | .print =>
    putSpace s.output
    return .next
  | .printFirst =>
    putLine s.output (firstLine s.space).1 true
    return .next
  | .next =>
    if ← atLast then return .cycleEnd
    if !s.manner.silent then putSpace s.output
    let replaced := s.replaced
    if ← readSpace then
      modify fun s => { s with replaced }
      return .next
    else return .stop s.status
  | .nextMore =>
    if ← atLast then return .cycleEnd
    putAdded
    match ← takeLine with
    | none => return .cycleEnd
    | some (line, ended) =>
      modify fun s => { s with space := s.space ++ "\n" ++ line, ended }
      return .next
  | .quit status =>
    if !s.manner.silent then putSpace s.output
    putAdded
    return .stop status
  | .quitSilently status => return .stop status
  | .readFile path =>
    add (.file path)
    return .next
  | .readLine path =>
    let lines ←
      match s.sources.lookup path with
      | some lines => pure lines
      | none =>
        match ← (readInput (if path = "/dev/stdin" then "-" else path) : Act _) with
        | .ok text => pure (linesOf text)
        | .error _ => pure []
    modify fun s =>
      { s with sources := (path, lines.tail) :: s.sources.filter (·.1 != path) }
    match lines with
    | [] => return .next
    | line :: _ =>
      add (.line line)
      return .next
  | .write path =>
    putSpace (← targetOf path)
    return .next
  | .writeFirst path =>
    putLine (← targetOf path) (firstLine s.space).1 true
    return .next
  | .showLine width =>
    putText s.output (shown (width.getD s.manner.width) s.space)
    return .next
  | .sayName =>
    putText s.output (s.name ++ "\n")
    return .next
  | .clear =>
    set { s with space := "" }
    return .next
  | .substitute sub =>
    substitute sub
    return .next
  | .transliterate pairs =>
    set { s with space := String.ofList (s.space.toList.map fun c => (pairs.lookup c).getD c) }
    return .next

/-- Carries out the commands from a place on, up to the end of the cycle. -/
def commands : Nat → Nat → Edits Onward
  | 0, _ => return .cycleEnd
  | fuel + 1, place => do
    match (← get).script.commands[place]? with
    | none => return .cycleEnd
    | some c =>
      if ← selects place c.selection then
        match ← act place c with
        | .next => commands fuel (place + 1)
        | .to place => commands fuel place
        | onward => return onward
      else
        match c.action with
        | .block after => commands fuel after
        | _ => commands fuel (place + 1)

/-- The most commands that one cycle takes. -/
def maxCommands : Nat := 1000000

/-- Carries out cycles. Unless a cycle is to go on with what the last one left, it reads a line. -/
def cycles : Nat → Bool → Edits Nat
  | 0, _ => return (← get).status
  | fuel + 1, reads => do
    let goes ← if reads then readSpace else pure true
    if !goes then
      closeBack
      return (← get).status
    match ← commands maxCommands 0 with
    | .stop status =>
      let s ← get
      return if status = 0 then s.status else status
    | .drop =>
      putAdded
      cycles fuel true
    | .again =>
      putAdded
      cycles fuel false
    | _ =>
      let s ← get
      if !s.manner.silent then putSpace s.output
      putAdded
      cycles fuel true

end Edits

/-! ## The utility -/

/-- What is said about the use of `sed`. -/
def usageText : String :=
  "Usage: sed [OPTION]... \x7bscript-only-if-no-other-script\x7d [input-file]...\n\n" ++
  "  -n, --quiet, --silent\n" ++
  "                 suppress automatic printing of pattern space\n" ++
  "      --debug\n" ++
  "                 annotate program execution\n" ++
  "  -e script, --expression=script\n" ++
  "                 add the script to the commands to be executed\n" ++
  "  -f script-file, --file=script-file\n" ++
  "                 add the contents of script-file to the commands to be executed\n" ++
  "  --follow-symlinks\n" ++
  "                 follow symlinks when processing in place\n" ++
  "  -i[SUFFIX], --in-place[=SUFFIX]\n" ++
  "                 edit files in place (makes backup if SUFFIX supplied)\n" ++
  "  -l N, --line-length=N\n" ++
  "                 specify the desired line-wrap length for the \x60l' command\n" ++
  "  --posix\n" ++
  "                 disable all GNU extensions.\n" ++
  "  -E, -r, --regexp-extended\n" ++
  "                 use extended regular expressions in the script\n" ++
  "                 (for portability use POSIX -E).\n" ++
  "  -s, --separate\n" ++
  "                 consider files as separate rather than as a single,\n" ++
  "                 continuous long stream.\n" ++
  "      --sandbox\n" ++
  "                 operate in sandbox mode (disable e/r/w commands).\n" ++
  "  -u, --unbuffered\n" ++
  "                 load minimal amounts of data from the input files and flush\n" ++
  "                 the output buffers more often\n" ++
  "  -z, --null-data\n" ++
  "                 separate lines by NUL characters\n" ++
  "      --help     display this help and exit\n" ++
  "      --version  output version information and exit\n\n" ++
  "If no -e, --expression, -f, or --file option is given, then the first\n" ++
  "non-option argument is taken as the sed script to interpret.  All\n" ++
  "remaining arguments are names of input files; if no input files are\n" ++
  "specified, then the standard input is read.\n"

/-- The options of `sed`. -/
def switches : List Switch :=
  [named 'n' "quiet", word "silent", named 'e' "expression" .something, named 'f' "file" .something,
    named 'i' "in-place" .perhaps, named 'l' "line-length" .something, named 'E' "regexp-extended",
    named 's' "separate", named 'u' "unbuffered", named 'z' "null-data", word "posix", word "debug",
    word "sandbox", word "follow-symlinks"] ++ letters "rb"

/-- The pieces of a script that options give. -/
def sourcesOf (options : List (String × String)) : Act (List Source) := do
  let mut sources : List Source := []
  let mut number := 0
  for (key, value) in options do
    if key = "e" then
      number := number + 1
      sources := sources ++ [{ text := value.toList, number }]
    else if key = "f" then
      match ← readInput value with
      | .ok text =>
        sources := sources ++ [{ text := (chomp text).toList, file := some value }]
      | .error .isDirectory => sources := sources ++ [{ text := [], file := some value }]
      | .error fault =>
        Act.giveUp 4 ("sed: couldn't open file " ++ value ++ ": " ++ fault.reason)
  return sources

/-- Opens the files to which a script writes. -/
def openTargets : Nat → List String → Act (List (String × Nat))
  | _, [] => return []
  | stream, path :: rest => do
    if path = "/dev/stdout" || path = "/dev/stderr" then openTargets stream rest
    else
      match ← Act.openPath .writing path with
      | .error fault => Act.giveUp 4 ("sed: couldn't open file " ++ path ++ ": " ++ fault.reason)
      | .ok index =>
        Act.setStream stream (some index)
        return (path, stream) :: (← openTargets (stream + 1) rest)

/-- The number of bytes in lines. -/
def sizeOf (lines : List String) : Nat := lines.foldl (fun n line => n + line.length) 0

/-- Edits inputs. -/
def sed : Program := fun c => do
  let a ←
    match readArguments (switches ++ usualSwitches) true c.args with
    | .error fault =>
      c.complain fault.text
      Act.giveUp 1 usageText
    | .ok a => pure a
  if a.has "help" || a.has "version" then throw 0
  let own ← sourcesOf a.options
  let (sources, paths) ←
    match own, a.operands with
    | [], [] => Act.giveUp 1 usageText
    | [], first :: rest => pure ([({ text := first.toList, number := 1 } : Source)], rest)
    | own, operands => pure (own, operands)
  let form : Text.RegexForm :=
    { extended := a.has "E" || a.has "r", escapes := true }
  match Script.read form sources with
  | .error (status, text) => Act.giveUp status ("sed: " ++ text)
  | .ok (script, files) =>
    let targets ← openTargets 100 files
    let manner : Manner := {
      silent := a.has "n" || a.has "silent" || script.silent
      separate := a.has "s"
      backup := a.value? "i"
      width := match (a.value? "l").bind natural? with
        | some 0 => 1
        | some n => n
        | none => 70
      terminator := if a.has "z" then '\x00' else '\n' }
    let ranges := script.commands.map fun c =>
      match c.selection.first with
      | some (.line 0) => RangeState.active
      | _ => .idle
    let editor : Editor := {
      manner, script, ranges, targets
      paths := if paths.isEmpty then ["-"] else paths }
    let (status, after) ← (Edits.cycles Edits.maxCommands true).run editor
    -- Lines of the input that were not needed can still be read.
    if after.name = "-" then
      match ← Act.openFile? 0 with
      | some (index, f) =>
        Act.setOpenFile index { f with offset := f.offset - sizeOf after.lines }
      | none => pure ()
    else if after.backTo.isSome then
      let rest : Edits Unit := do
        for line in after.lines do Edits.put 1 line
        Edits.closeBack
      let _ ← rest.run after
    return status

end ContractBindings.Utility.Edit
