import ContractBindings.Text.Escape
import ContractBindings.Text.Format
import ContractBindings.Text.Pattern
import ContractBindings.Text.Regex.Reader
import ContractBindings.Utility.Dates
import ContractBindings.Utility.Starting

/-!
# Finding files

`find` goes through directories and tries an expression on everything that it meets. A part of an
expression can be a test, which holds or not, or an action, which does something and holds.
-/

namespace ContractBindings.Utility

open Process
open Disk (Node)
open Text

/-! ## Expressions -/

/-- A number that is compared: it is the same, or more, or less. -/
structure Bound where
  order : Ordering
  value : Nat

/-- The number is within the bound. -/
def Bound.admits (b : Bound) (n : Int) : Bool := compare n (b.value : Int) = b.order

/-- Which bits of a mode are looked at. -/
inductive ModeTest where
  | same (bits : Nat)
  | all (bits : Nat)
  | any (bits : Nat)

/-- A part of an expression. -/
inductive Probe where
  | always (holds : Bool)
  /-- The last part of the path matches a pattern. -/
  | name (pattern : String) (ignoresCase : Bool)
  | path (pattern : String) (ignoresCase : Bool)
  | target (pattern : String) (ignoresCase : Bool)
  | regex (r : Text.Regex) (ignoresCase : Bool)
  | kinds (letters : List Char) (ofTarget : Bool)
  | empty
  | size (b : Bound) (unit : Nat)
  | age (b : Bound) (unit : Int)
  | newer (time : Int)
  | mode (t : ModeTest)
  | executable
  | links (b : Bound)
  | same (place : List String) (identity : Nat)
  | user (isFirst : Bool)
  | print (ending : String)
  | format (text : String)
  | list
  | toFile (stream : Nat) (ending : String)
  | prune
  | quit
  | delete
  /-- Runs a program, in the directory of the file if `inPlace`. -/
  | run (argv : List String) (inPlace : Bool)
  /-- Runs a program with many paths; the number tells which of such actions it is. -/
  | runMany (index : Nat) (argv : List String) (inPlace : Bool)
  /-- Asks before it would run a program; nobody answers. -/
  | ask (argv : List String)
  | both (first second : Probe)
  | either (first second : Probe)
  | inSequence (first second : Probe)
  | negation (body : Probe)

/-- What holds for a whole search. -/
structure FindManner where
  depthFirst : Bool := false
  least : Nat := 0
  most : Option Nat := none
  follows : Bool := false
  followsOperands : Bool := false
  /-- There is an action, so that paths are not said for want of one. -/
  acts : Bool := false
  extended : Bool := false
  /-- How many actions run a program with many paths. -/
  gathered : Nat := 0

/-! ## Reading expressions -/

/-- Why an expression is none. -/
inductive FindFault where
  | missing (predicate : String)
  | unknown (predicate : String)
  | invalid (argument predicate : String)
  /-- A path after the start of the expression. -/
  | misplaced (word : String)
  | text (message : String)

/-- What is said about an expression that is none. -/
def FindFault.message : FindFault → String
  | missing predicate => "missing argument to \x60" ++ predicate ++ "'"
  | unknown predicate => "unknown predicate \x60" ++ predicate ++ "'"
  | invalid argument predicate =>
    "invalid argument \x60" ++ argument ++ "' to \x60" ++ predicate ++ "'"
  | misplaced word => "paths must precede expression: \x60" ++ word ++ "'"
  | text message => message

/-- Reading an expression: the words that are left, and what holds for the whole search. -/
abbrev ReadFind := StateT (List String × FindManner) (ExceptT FindFault Act)

namespace ReadFind

/-- Stops with a fault. -/
def stop {α : Type} (fault : FindFault) : ReadFind α := throw fault

/-- The next word, which is left. -/
def peek? : ReadFind (Option String) := return (← get).1.head?

/-- Goes past a word. -/
def skip : ReadFind Unit := modify fun (words, m) => (words.tail, m)

/-- Changes what holds for the whole search. -/
def note (f : FindManner → FindManner) : ReadFind Unit := modify fun (words, m) => (words, f m)

/-- The argument of a predicate. -/
def argument (predicate : String) : ReadFind String := do
  match (← get).1 with
  | [] => stop (.missing predicate)
  | word :: rest =>
    modify fun (_, m) => (rest, m)
    return word

/-- A bound, as an argument. -/
def bound (predicate : String) : ReadFind Bound := do
  let text ← argument predicate
  let (order, digits) : Ordering × String :=
    match text.toList with
    | '+' :: rest => (.gt, String.ofList rest)
    | '-' :: rest => (.lt, String.ofList rest)
    | _ => (.eq, text)
  match natural? digits with
  | some value => return { order, value }
  | none => stop (.invalid text predicate)

/-- A depth, as an argument. -/
def depth (predicate : String) : ReadFind Nat := do
  let text ← argument predicate
  match natural? text with
  | some n => return n
  | none =>
    stop (.text ("Expected a positive decimal integer argument to " ++ predicate ++ ", but got " ++
      textQuoted text))

/-- The place and the node of a path, as an argument. -/
def node (predicate : String) : ReadFind (List String × Node) := do
  let path ← argument predicate
  match ← (Act.look path : Act _) with
  | .ok found => return found
  | .error fault => stop (.text (shellQuoted path ++ ": " ++ fault.reason))

/-- The command of a predicate, up to its end. The second part of the result tells whether it takes
many paths. -/
def command (predicate : String) : ReadFind (List String × Bool) := do
  let words := (← get).1
  let rec cut : List String → List String → Option (List String × Bool × List String)
    | _, [] => none
    | before, ";" :: rest => some (before.reverse, false, rest)
    | "\x7b\x7d" :: before, "+" :: rest => some (before.reverse, true, rest)
    | before, word :: rest => cut (word :: before) rest
  match cut [] words with
  | none => stop (.missing predicate)
  | some ([], false, _) => stop (.invalid ";" predicate)
  | some (argv, many, rest) =>
    modify fun (_, m) => (rest, { m with acts := true })
    return (argv, many)

/-- Says something on the side about an expression. -/
def warn (text : String) : ReadFind Unit := (Act.complain ("find: warning: " ++ text) : Act Unit)

/-- The letters that stand for something after a percent sign. -/
def formatLetters : List Char := "pfhPHdsbkmMyYlugUGnTtAaCcBDFiSZ".toList

/-- Checks a text with letters after percent signs and escapes. -/
def checkFormat : List Char → ReadFind Unit
  | [] => return
  | '\\' :: 'c' :: _ => return
  | '\\' :: c :: rest => do
    if !c.isDigit && !"abfnrtv\\".toList.contains c then
      warn ("unrecognized escape \x60\\" ++ String.singleton c ++ "'")
    checkFormat rest
  | ['\\'] => warn "escape \x60\\' followed by nothing at all"
  | '%' :: '%' :: rest => checkFormat rest
  | '%' :: rest =>
    match rest.dropWhile fun c => c.isDigit || ['-', '0', '#', '+', ' ', '.'].contains c with
    | [] => stop (.text "error: % at end of format string")
    | letter :: _ =>
      if formatLetters.contains letter then checkFormat rest
      else do
        warn ("unrecognized format directive \x60%" ++ String.singleton letter ++ "'")
        checkFormat rest
  | _ :: rest => checkFormat rest

/-- The parts of a size: how many, and of what unit. -/
def sizeParts (text : String) : Option (Ordering × Nat × Nat) :=
  let (order, cs) : Ordering × List Char :=
    match text.toList with
    | '+' :: rest => (.gt, rest)
    | '-' :: rest => (.lt, rest)
    | cs => (.eq, cs)
  let digits := cs.takeWhile Char.isDigit
  let unit? : Option Nat :=
    match cs.drop digits.length with
    | [] | ['b'] => some 512
    | ['c'] => some 1
    | ['w'] => some 2
    | ['k'] => some 1024
    | ['M'] => some 1048576
    | ['G'] => some 1073741824
    | _ => none
  match natural? (String.ofList digits), unit? with
  | some n, some unit => some (order, n, unit)
  | _, _ => none

/-- A regular expression as an argument. -/
def regex (predicate : String) (ignoresCase : Bool) : ReadFind Probe := do
  let text ← argument predicate
  let extended := (← get).2.extended
  -- A plus sign and a question mark have their meaning without a backslash.
  let rec plain : List Char → List Char
    | '\\' :: c :: rest => '\\' :: c :: plain rest
    | c :: rest => if c = '+' || c = '?' then '\\' :: c :: plain rest else c :: plain rest
    | [] => []
  let text := if extended then text else String.ofList (plain text.toList)
  match Text.Regex.read { extended } text with
  | .ok (r, _) => return .regex r ignoresCase
  | .error fault => stop (.text (fault.text ++ ": " ++ text))

/-- The bits of a mode, as an argument. -/
def modeTest (predicate : String) : ReadFind Probe := do
  let text ← argument predicate
  let bits? (text : String) : Option Nat := (Mode.read? text).map fun m => m.apply 0 false 0
  let found : Option ModeTest :=
    match text.toList with
    | '-' :: rest => (bits? (String.ofList rest)).map .all
    | '/' :: rest => (bits? (String.ofList rest)).map .any
    | _ => (bits? text).map .same
  match found with
  | some t => return .mode t
  | none => stop (.text ("invalid mode " ++ shellQuoted text))

/-- Reads one predicate with its arguments. -/
def predicate (word : String) : ReadFind Probe := do
  let act (p : Probe) : ReadFind Probe := do
    note fun m => { m with acts := true }
    return p
  match word with
  | "-true" | "-daystart" | "-warn" | "-nowarn" | "-noleaf" | "-mount" | "-xdev"
  | "-ignore_readdir_race" | "-noignore_readdir_race" => return .always true
  | "-false" => return .always false
  | "-follow" =>
    note fun m => { m with follows := true }
    return .always true
  | "-depth" | "-d" =>
    note fun m => { m with depthFirst := true }
    return .always true
  | "-maxdepth" =>
    let n ← depth word
    note fun m => { m with most := some n }
    return .always true
  | "-mindepth" =>
    let n ← depth word
    note fun m => { m with least := n }
    return .always true
  | "-regextype" =>
    let kind ← argument word
    let basic := ["findutils-default", "ed", "emacs", "grep", "posix-basic", "posix-minimal-basic",
      "sed"]
    let full := ["gnu-awk", "posix-awk", "awk", "posix-egrep", "egrep", "posix-extended"]
    if kind ∈ full then note fun m => { m with extended := true }
    else if kind ∈ basic then note fun m => { m with extended := false }
    else
      stop (.text ("Unknown regular expression type " ++ textQuoted kind ++ "; valid types are " ++
        "'findutils-default', 'ed', 'emacs', 'gnu-awk', 'grep', 'posix-awk', 'awk', " ++
        "'posix-basic', 'posix-egrep', 'egrep', 'posix-extended', 'posix-minimal-basic', 'sed'."))
    return .always true
  | "-name" => return .name (← argument word) false
  | "-iname" => return .name (← argument word) true
  | "-path" | "-wholename" => return .path (← argument word) false
  | "-ipath" | "-iwholename" => return .path (← argument word) true
  | "-lname" => return .target (← argument word) false
  | "-ilname" => return .target (← argument word) true
  | "-regex" => regex word false
  | "-iregex" => regex word true
  | "-type" | "-xtype" =>
    let text ← argument word
    let kinds := text.splitOn ","
    for kind in kinds do
      if kind.length ≠ 1 || !("bcdpflsD".contains (kind.toList.head?.getD ' ')) then
        let shown := if kind.length = 1 then kind else text
        if 1 < kind.length then
          stop (.text ("Must separate multiple arguments to " ++ word ++ " using: ','"))
        stop (.text ("Unknown argument to " ++ word ++ ": " ++ shown))
    return .kinds (kinds.flatMap (·.toList)) (word = "-xtype")
  | "-empty" => return .empty
  | "-size" =>
    let text ← argument word
    match sizeParts text with
    | some (order, value, unit) => return .size { order, value } unit
    | none =>
      let last := text.toList.getLast?
      if last.all Char.isDigit then stop (.invalid text "-size")
      else
        stop (.text ("invalid -size type \x60" ++ String.ofList last.toList ++ "'"))
  | "-mtime" | "-ctime" | "-atime" => return .age (← bound word) Text.dayLength
  | "-mmin" | "-cmin" | "-amin" => return .age (← bound word) 60000
  | "-newer" | "-anewer" | "-cnewer" => return .newer (changeTime (← node word).2)
  | "-newermt" =>
    let text ← argument word
    match Moment.read? (← (now : Act _)) text with
    | some time => return .newer time
    | none =>
      stop (.text ("I cannot figure out how to interpret " ++ textQuoted text ++
        " as a date or time"))
  | "-perm" => modeTest word
  | "-executable" => return .executable
  | "-readable" | "-writable" => return .always true
  | "-links" => return .links (← bound word)
  | "-inum" =>
    let _ ← bound word
    return .always false
  | "-samefile" =>
    let (place, node) ← node word
    let identity :=
      match node with
      | .file _ attributes => attributes.identity
      | _ => 0
    return .same place identity
  | "-user" | "-group" =>
    let name ← argument word
    if name = "root" || name = "0" then return .user true
    else if (natural? name).isSome then return .user false
    else
      stop (.text (textQuoted name ++ " is not the name of " ++
        (if word = "-user" then "a known user" else "an existing group")))
  | "-uid" | "-gid" =>
    let b ← bound word
    return .user (b.admits 0)
  | "-nouser" | "-nogroup" => return .always false
  | "-print" => act (.print "\n")
  | "-print0" => act (.print "\x00")
  | "-printf" =>
    let text ← argument word
    checkFormat text.toList
    act (.format text)
  | "-ls" => act .list
  | "-fprint" | "-fprint0" | "-fls" | "-fprintf" =>
    let path ← argument word
    match ← (Act.openPath .writing path : Act _) with
    | .error fault => stop (.text (shellQuoted path ++ ": " ++ fault.reason))
    | .ok index => do
      let stream := 100 + index
      let _ ← (Act.setStream stream (some index) : Act _)
      if word = "-fprintf" then
        let _ ← argument word
      act (.toFile stream (if word = "-fprint0" then "\x00" else "\n"))
  | "-prune" => return .prune
  | "-quit" => return .quit
  | "-delete" =>
    note fun m => { m with depthFirst := true }
    act .delete
  | "-exec" | "-execdir" =>
    let (argv, many) ← command word
    let inPlace := word = "-execdir"
    if many then
      let index := (← get).2.gathered
      note fun m => { m with gathered := index + 1 }
      return .runMany index argv inPlace
    else return .run argv inPlace
  | "-ok" | "-okdir" => return .ask (← command word).1
  | word =>
    if word.startsWith "-" then stop (.unknown word)
    else stop (.misplaced word)

/-- The word begins or ends a part, or joins two. -/
def joins (word : String) : Bool :=
  word ∈ ["-o", "-or", "-a", "-and", ",", ")"]

/-- The fault of a word that joins nothing. -/
def lonely (word : String) : FindFault :=
  if word = ")" then
    .text "invalid expression; you have too many ')'"
  else
    .text ("invalid expression; you have used a binary operator '" ++ word ++
      "' with nothing before it.")

mutual

/-- Reads one part: a predicate, or an expression in brackets, perhaps turned round. -/
def part : Nat → String → ReadFind Probe
  | 0, _ => stop (.text "expression is too long")
  | fuel + 1, before => do
    match ← peek? with
    | none => stop (.text ("expected an expression after '" ++ before ++ "'"))
    | some word =>
      skip
      match word with
      | "!" | "-not" => return .negation (← part fuel word)
      | "(" =>
        if (← peek?) = some ")" then
          stop (.text "invalid expression; empty parentheses are not allowed.")
        if (← peek?).isNone then
          stop (.text
            ("invalid expression; expected to find a ')' but didn't see one. " ++
              "Perhaps you need an extra predicate after '('"))
        let inside ← sequence fuel
        if (← peek?) ≠ some ")" then
          stop (.text
            "invalid expression; I was expecting to find a ')' somewhere but did not see one.")
        skip
        return inside
      | word => if joins word then stop (lonely word) else predicate word

/-- Reads parts that must all hold. -/
def conjunction : Nat → String → ReadFind Probe
  | 0, _ => stop (.text "expression is too long")
  | fuel + 1, before => do
    let first ← part fuel before
    conjunctionFrom fuel first

/-- Reads more parts that must all hold. -/
def conjunctionFrom : Nat → Probe → ReadFind Probe
  | 0, first => return first
  | fuel + 1, first => do
    match ← peek? with
    | none => return first
    | some word =>
      if word = "-a" || word = "-and" then
        skip
        let second ← part fuel word
        conjunctionFrom fuel (.both first second)
      else if joins word then return first
      else
        let second ← part fuel word
        conjunctionFrom fuel (.both first second)

/-- Reads parts of which one must hold. -/
def disjunction : Nat → String → ReadFind Probe
  | 0, _ => stop (.text "expression is too long")
  | fuel + 1, before => do
    let first ← conjunction fuel before
    disjunctionFrom fuel first

/-- Reads more parts of which one must hold. -/
def disjunctionFrom : Nat → Probe → ReadFind Probe
  | 0, first => return first
  | fuel + 1, first => do
    match ← peek? with
    | some "-o" | some "-or" => do
      let word := (← peek?).getD ""
      skip
      let second ← conjunction fuel word
      disjunctionFrom fuel (.either first second)
    | _ => return first

/-- Reads expressions that are tried one after the other. -/
def sequence : Nat → ReadFind Probe
  | 0 => stop (.text "expression is too long")
  | fuel + 1 => do
    let first ← disjunction fuel "("
    sequenceFrom fuel first

/-- Reads more expressions that are tried. -/
def sequenceFrom : Nat → Probe → ReadFind Probe
  | 0, first => return first
  | fuel + 1, first => do
    if (← peek?) = some "," then
      skip
      let second ← disjunction fuel ","
      sequenceFrom fuel (.inSequence first second)
    else return first

end

/-- Reads a whole expression. -/
def expression : ReadFind Probe := do
  let words := (← get).1
  if words.isEmpty then return .always true
  let found ← sequence (4 * words.length + 8)
  match ← peek? with
  | none => return found
  | some word => stop (lonely word)

end ReadFind

/-! ## Trying expressions -/

/-- Something that was met. -/
structure Met where
  path : String
  /-- The operand from which it was reached. -/
  start : String
  place : List String
  node : Node
  depth : Nat

/-- What a search remembers. -/
structure Finding where
  pruned : Bool := false
  isDone : Bool := false
  status : Nat := 0
  /-- The paths for each action that takes many. -/
  gathered : List (Nat × List String × String) := []

/-- The steps of a search. -/
abbrev Find := StateT Finding Act

/-- The letter of the kind of a node. -/
def kindLetter : Node → Char
  | .file .. => 'f'
  | .link _ => 'l'
  | .dir _ | .sealed .. => 'd'
  | .device _ => 'c'

/-- The last part of the path of something that was met. -/
def Met.name (m : Met) : String := baseName m.path

/-- The path of something below its operand. -/
def Met.relative (m : Met) : String :=
  let rest := m.path.toList.drop m.start.length
  String.ofList (match rest with
    | '/' :: rest => rest
    | rest => rest)

/-- The directory of something. -/
def Met.directory (m : Met) : String :=
  if m.path.contains '/' then
    let kept := (m.path.toList.reverse.dropWhile (· ≠ '/')).drop 1
    String.ofList kept.reverse
  else "."

/-- What a letter after a percent sign stands for. -/
def Met.item? (m : Met) (letter : Char) : Option String :=
  let octal (n : Nat) : String := Text.Format.natural {} 8 false n
  match letter with
  | 'p' => some m.path
  | 'f' => some m.name
  | 'h' => some m.directory
  | 'P' => some m.relative
  | 'H' => some m.start
  | 'd' => some (toString m.depth)
  | 's' => some (toString m.node.byteSize)
  | 'b' => some (toString ((m.node.byteSize + 4095) / 4096 * 8))
  | 'k' => some (toString ((m.node.byteSize + 4095) / 4096 * 4))
  | 'm' => some (octal m.node.mode)
  | 'M' =>
    let kind := if kindLetter m.node = 'f' then '-' else kindLetter m.node
    some (String.singleton kind ++ modeText m.node.mode)
  | 'y' | 'Y' => some (String.singleton (kindLetter m.node))
  | 'l' =>
    match m.node with
    | .link target => some (Text.octets target)
    | _ => some ""
  | 'u' | 'g' => some "root"
  | 'U' | 'G' => some "0"
  | 'n' => some "1"
  | 'T' | 't' => some (Moment.format "%a %b %e %H:%M:%S.0000000000 %Y" (changeTime m.node))
  | _ => none

/-- A text with letters after percent signs and escapes. -/
def Met.format (m : Met) : Nat → List Char → List Char
  | 0, _ => []
  | _ + 1, [] => []
  | fuel + 1, '%' :: '%' :: rest => '%' :: m.format fuel rest
  | fuel + 1, '%' :: rest =>
    let flags := rest.takeWhile (· ∈ ['-', '0', '#', '+', ' '])
    let after := rest.drop flags.length
    let digits := after.takeWhile Char.isDigit
    match after.drop digits.length with
    | letter :: rest =>
      match m.item? letter with
      | some text =>
        let width := (natural? (String.ofList digits)).getD 0
        let room := List.replicate (width - text.length) ' '
        (if flags.contains '-' then text.toList ++ room else room ++ text.toList) ++
          m.format fuel rest
      | none => '%' :: flags ++ digits ++ letter :: m.format fuel rest
    | [] => ['%']
  | _ + 1, '\\' :: 'c' :: _ => []
  | fuel + 1, '\\' :: rest =>
    let (c, rest) := Text.escape rest
    c :: m.format fuel rest
  | fuel + 1, c :: rest => c :: m.format fuel rest

/-- A line of the long listing. -/
def Met.line (m : Met) : String :=
  let kind := if kindLetter m.node = 'f' then '-' else kindLetter m.node
  let target :=
    match m.node with
    | .link target => " -> " ++ Text.octets target
    | _ => ""
  padded 9 "1" ++ " " ++ padded 6 (toString ((m.node.byteSize + 4095) / 4096 * 4)) ++ " " ++
    String.singleton kind ++ modeText m.node.mode ++ "   1 root     root     " ++
    padded 8 (toString m.node.byteSize) ++ " " ++
    Moment.format "%b %e %H:%M" (changeTime m.node) ++ " " ++ m.path ++ target

namespace Find

/-- Notes that something went wrong. -/
def fail (c : Call) (text : String) : Find Bool := do
  c.complain text
  modify fun s => { s with status := 1 }
  return false

/-- A path as a program gets it that runs in the directory of the file. -/
def inPlacePath (m : Met) : String := if m.name = "/" then "/" else "./" ++ m.name

/-- Runs a program, in a directory or in the one of the search. -/
def launchIn (c : Call) (start : Starter) (directory : Option String) (argv : List String) :
    Find (Option Ending) := do
  Act.sendHeld
  let here := (← (MonadState.get : Act Machine)).context.here
  if let some directory := directory then
    if let .ok (place, _) := ← (Act.look directory : Act _) then
      (modify fun m => { m with context := { m.context with here := place } } : Act Unit)
  let result ← (launch start argv : Act _)
  (modify fun m => { m with context := { m.context with here := here } } : Act Unit)
  match result with
  | .ok ending => return some ending
  | .error fault =>
    c.complain (shellQuoted (argv.head?.getD "") ++ ": " ++ fault.reason)
    return none

/-- Takes away what was met. -/
def delete (c : Call) (m : Met) : Find Bool := do
  if m.path = "." then return true
  let removal (d : Disk) : Except Disk.Fault Disk.Edit :=
    match d.root.get? m.place with
    | some node =>
      if node.isDir && !node.entries.isEmpty then .error .notEmpty
      else .ok (.erase m.place)
    | none => .error .notFound
  match ← (Act.change removal : Act _) with
  | .ok () => return true
  | .error fault => fail c ("cannot delete " ++ shellQuoted m.path ++ ": " ++ fault.reason)

/-- The text matches a pattern. -/
def matchesPattern (pattern text : String) (ignoresCase : Bool) : Bool :=
  let fold (s : String) : List Char := if ignoresCase then s.toList.map Char.toLower else s.toList
  Text.Pattern.isMatch (fold pattern) (fold text)

/-- Tries an expression on something. -/
def attempt (c : Call) (start : Starter) (time : Int) (m : Met) : Probe → Find Bool
  | .always holds => return holds
  | .name pattern ignoresCase => return matchesPattern pattern m.name ignoresCase
  | .path pattern ignoresCase => return matchesPattern pattern m.path ignoresCase
  | .target pattern ignoresCase =>
    match m.node with
    | .link target => return matchesPattern pattern (Text.octets target) ignoresCase
    | _ => return false
  | .regex r ignoresCase =>
    let chars := m.path.toList.toArray
    let s : Text.Subject := { text := chars, ignoresCase }
    return (Text.Regex.matchAt? s r 0).any fun f => f.last = chars.size
  | .kinds letters ofTarget => do
    if ofTarget then
      match ← (Act.look m.path : Act _) with
      | .ok (_, node) => return letters.contains (kindLetter node)
      | .error _ => return letters.contains 'l'
    else return letters.contains (kindLetter m.node)
  | .empty =>
    match m.node with
    | .file bytes _ => return bytes.isEmpty
    | .dir entries => return entries.isEmpty
    | _ => return false
  | .size b unit => return b.admits ((m.node.byteSize + unit - 1) / unit : Nat)
  | .age b unit => return b.admits ((time - changeTime m.node).fdiv unit)
  | .newer other => return other < changeTime m.node
  | .mode t =>
    let mode := m.node.mode
    match t with
    | .same bits => return mode = bits
    | .all bits => return mode &&& bits = bits
    | .any bits => return bits = 0 || mode &&& bits ≠ 0
  | .executable => return m.node.mode &&& 0o111 ≠ 0
  | .links b => return b.admits (if m.node.isDir then 2 else 1)
  | .same place identity =>
    match m.node with
    | .file _ attributes =>
      return place == m.place || (identity ≠ 0 && attributes.identity = identity)
    | _ => return place == m.place
  | .user isFirst => return isFirst
  | .print ending => do
    Act.say (m.path ++ ending)
    return true
  | .format text => do
    Act.say (String.ofList (m.format (text.length + 1) text.toList))
    return true
  | .list => do
    Act.sayLine m.line
    return true
  | .toFile stream ending => do
    let _ ← (Act.write stream (m.path ++ ending) : Act _)
    return true
  | .prune => do
    modify fun s => { s with pruned := true }
    return true
  | .quit => do
    modify fun s => { s with isDone := true }
    return true
  | .delete => delete c m
  | .run argv inPlace => do
    let path := if inPlace then inPlacePath m else m.path
    let argv := argv.map fun arg => arg.replace "\x7b\x7d" path
    match ← launchIn c start (if inPlace then some m.directory else none) argv with
    | some (.exit 0) => return true
    | _ => return false
  | .runMany index _ inPlace => do
    let (directory, path) := if inPlace then (m.directory, inPlacePath m) else ("", m.path)
    modify fun s => { s with gathered := (index, [path], directory) :: s.gathered }
    return true
  | .ask argv => do
    Act.sendHeld
    let _ ← (Act.write 2 ("< " ++ argv.head?.getD "" ++ " ... " ++ m.path ++ " > ? ") : Act _)
    return false
  | .both first second => do
    if ← attempt c start time m first then attempt c start time m second else return false
  | .either first second => do
    if ← attempt c start time m first then return true else attempt c start time m second
  | .inSequence first second => do
    let _ ← attempt c start time m first
    attempt c start time m second
  | .negation body => return !(← attempt c start time m body)

/-- Goes through a directory. -/
def walk (c : Call) (start : Starter) (manner : FindManner) (time : Int) (p : Probe) :
    Nat → Met → Find Unit
  | 0, _ => return
  | fuel + 1, m => do
    if (← get).isDone then return
    let test : Find Unit := do
      if manner.least ≤ m.depth then
        let _ ← attempt c start time m p
    modify fun s => { s with pruned := false }
    if !manner.depthFirst then test
    let s ← get
    let isDeep := manner.most.any (· ≤ m.depth)
    if !s.isDone && (manner.depthFirst || !s.pruned) && !isDeep && m.node.isDir then
      match (← (MonadState.get : Act Machine)).world.disk.root.get? m.place with
      | some (.dir entries) =>
        for (name, node) in entries do
          let octets := Text.octets name
          let path := if m.path.endsWith "/" then m.path ++ octets else m.path ++ "/" ++ octets
          let place := m.place ++ [name]
          let below : Met :=
            { path, start := m.start, place, node, depth := m.depth + 1 }
          let below ←
            if manner.follows then
              match ← (Act.look path : Act _) with
              | .ok (place, node) => pure { below with place, node }
              | .error _ => pure below
            else pure below
          walk c start manner time p fuel below
      | _ => pure ()
    if manner.depthFirst then test

/-- Runs the programs that take many paths. -/
def runGathered (c : Call) (start : Starter) : Probe → Find Unit
  | .runMany index argv inPlace => do
    let all := (← get).gathered.reverse.filter (·.1 = index)
    let directories := if inPlace then (all.map (·.2.2)).eraseDups else [""]
    for directory in directories do
      let paths := (all.filter (·.2.2 = directory)).flatMap (·.2.1)
      if !paths.isEmpty then
        match ← launchIn c start (if inPlace then some directory else none)
          (argv ++ paths) with
        | some (.exit 0) => pure ()
        | _ => modify fun s => { s with status := 1 }
  | .both first second | .either first second | .inSequence first second => do
    runGathered c start first
    runGathered c start second
  | .negation body => runGathered c start body
  | _ => return

end Find

/-- Goes through directories and tries an expression on everything there. -/
def find (start : Starter) (c : Call) : Act Ending := do
  let rec links : List String → FindManner → List String × FindManner
    | "-L" :: rest, m => links rest { m with follows := true }
    | "-P" :: rest, m => links rest { m with follows := false, followsOperands := false }
    | "-H" :: rest, m => links rest { m with followsOperands := true }
    | "--" :: rest, m => (rest, m)
    | rest, m => (rest, m)
  let (args, manner) := links c.args {}
  let begins (arg : String) : Bool :=
    arg = "(" || arg = "!" || (arg.startsWith "-" && arg ≠ "-")
  let paths := args.takeWhile (!begins ·)
  let words := args.drop paths.length
  if words.any fun w => w = "-help" || w = "--help" || w = "-version" || w = "--version" then
    return .exit 0
  match ← (ReadFind.expression.run (words, manner)).run with
  | .error fault =>
    c.complain fault.message
    if let .misplaced word := fault then
      let before := (words.takeWhile (· ≠ word)).reverse.find? (·.startsWith "-")
      if let .ok _ := ← Act.look word .stay then
        if let some before := before then
          c.complain ("possible unquoted pattern after predicate \x60" ++ before ++ "'?")
    return .exit 1
  | .ok (p, _, manner) =>
    let p := if manner.acts then p else .both p (.print "\n")
    let time ← now
    let steps : Find Unit := do
      for path in if paths.isEmpty then ["."] else paths do
        if !(← get).isDone then
          let follow := manner.follows || manner.followsOperands
          let found ←
            match ← (Act.look path (if follow then .follow else .stay) : Act _) with
            | .ok found => pure (.ok found)
            | .error fault => if follow then (Act.look path .stay : Act _) else pure (.error fault)
          match found with
          | .ok (place, node) =>
            Find.walk c start manner time p 10000 { path, start := path, place, node, depth := 0 }
          | .error fault =>
            let _ ← Find.fail c (shellQuoted path ++ ": " ++ fault.reason)
      Find.runGathered c start p
    let ((), s) ← steps.run {}
    return .exit s.status

end ContractBindings.Utility
