import ContractBindings.Text.Difference
import ContractBindings.Text.Pattern
import ContractBindings.Utility.Copying
import ContractBindings.Utility.Dates
import ContractBindings.Utility.Lines

/-!
# Comparing

`diff` says what was changed between two files, or between the files of two directories.
-/

namespace ContractBindings.Utility

open Process
open Text (Change)

/-! ## Lines -/

/-- What does not count when lines are compared. -/
structure LineManner where
  letterCase : Bool := false
  /-- How many blanks there are between words. -/
  blankNumber : Bool := false
  /-- All blanks. -/
  blanks : Bool := false
  /-- Blanks at the end. -/
  lastBlanks : Bool := false
  /-- A carriage return at the end. -/
  lastReturn : Bool := false

/-- A blank between words of a line. -/
def isLineBlank (c : Char) : Bool := c = ' ' || ('\t' ≤ c && c ≤ '\r' && c ≠ '\n')

/-- Puts one blank in the place of several. -/
def oneBlank : List Char → List Char
  | [] => []
  | c :: cs =>
    match oneBlank cs with
    | ' ' :: rest => if isLineBlank c then ' ' :: rest else c :: ' ' :: rest
    | rest => (if isLineBlank c then ' ' else c) :: rest

/-- A text without the blanks at its end. -/
def trimEnd (cs : List Char) : List Char := (cs.reverse.dropWhile isLineBlank).reverse

/-- What counts of a line. -/
def LineManner.key (m : LineManner) (line : String) : String :=
  let text := (chomp line).toList
  let ending := if line.endsWith "\n" then ['\n'] else []
  let ignoresBlanks := m.blanks || m.blankNumber || m.lastBlanks
  let text :=
    if m.blanks then text.filter (!isLineBlank ·)
    else if m.blankNumber then oneBlank (trimEnd text)
    else if m.lastBlanks then trimEnd text
    else if m.lastReturn && text.getLast? = some '\r' then text.dropLast
    else text
  let text := if m.letterCase then text.map Char.toLower else text
  String.ofList (text ++ if ignoresBlanks then ['\n'] else ending)

/-! ## Forms -/

/-- How changes are written. -/
inductive DiffForm where
  | normal
  | unified (context : Nat)
  | context (context : Nat)
  | commands
  | numbered
  | columns
  deriving DecidableEq

/-- How files are compared. -/
structure DiffManner where
  call : Call
  form : DiffForm
  lines : LineManner
  /-- Changes of blank lines alone do not count. -/
  ignoresBlankLines : Bool
  brief : Bool
  /-- Says which files are the same. -/
  tellsSame : Bool
  recursive : Bool
  /-- A file that is missing is an empty one. -/
  absentIsEmpty : Bool
  asText : Bool
  labels : List String
  excluded : List String
  /-- The options as they were given. -/
  words : List String
  width : Nat := 130
  omitsShared : Bool := false
  leftOnly : Bool := false

/-- A line after a mark, with a remark if it has no line end. -/
def markedLine (mark line : String) : String :=
  if line.endsWith "\n" then mark ++ line else mark ++ line ++ "\n\\ No newline at end of file\n"

/-- Some lines of a text. -/
def linesIn (lines : Array String) (first count : Nat) : List String :=
  (lines.extract first (first + count)).toList

/-- A range of lines, from one on. -/
def rangeText (first count : Nat) : String :=
  if count ≤ 1 then toString (first + count)
  else toString (first + 1) ++ "," ++ toString (first + count)

/-- A change in the normal form. -/
def normalText (xs ys : Array String) (c : Change) : String :=
  let letter := if c.inserted = 0 then "d" else if c.deleted = 0 then "a" else "c"
  let divider := if c.deleted ≠ 0 && c.inserted ≠ 0 then "---\n" else ""
  rangeText c.first c.deleted ++ letter ++ rangeText c.second c.inserted ++ "\n" ++
    String.join ((linesIn xs c.first c.deleted).map (markedLine "< ")) ++ divider ++
    String.join ((linesIn ys c.second c.inserted).map (markedLine "> "))

/-- A change as commands of an editor, which come from the last to the first. -/
def commandText (ys : Array String) (c : Change) : String :=
  let lines := linesIn ys c.second c.inserted
  if c.inserted = 0 then rangeText c.first c.deleted ++ "d\n"
  else
    rangeText c.first c.deleted ++ (if c.deleted = 0 then "a\n" else "c\n") ++
      String.join lines ++ ".\n"

/-- A change as numbered commands. -/
def numberedText (ys : Array String) (c : Change) : String :=
  (if c.deleted = 0 then ""
    else "d" ++ toString (c.first + 1) ++ " " ++ toString c.deleted ++ "\n") ++
  if c.inserted = 0 then ""
  else
    "a" ++ toString (c.first + c.deleted) ++ " " ++ toString c.inserted ++ "\n" ++
      String.join (linesIn ys c.second c.inserted)

/-- Groups changes that are so near each other that their contexts meet. -/
def nearGroups (context : Nat) : List Change → List (List Change)
  | [] => []
  | c :: rest =>
    match nearGroups context rest with
    | (d :: group) :: groups =>
      if d.first ≤ c.first + c.deleted + 2 * context then (c :: d :: group) :: groups
      else [c] :: (d :: group) :: groups
    | groups => [c] :: groups

/-- What a group of changes covers in both texts: the first line and the number of lines of each. -/
def groupSpan (context : Nat) (xs : Array String) (ys : Array String) (group : List Change) :
    (Nat × Nat) × (Nat × Nat) :=
  match group.head?, group.getLast? with
  | some c, some d =>
    let x := c.first - min context c.first
    let y := c.second - min context c.second
    let xend := min xs.size (d.first + d.deleted + context)
    let yend := min ys.size (d.second + d.inserted + context)
    ((x, xend - x), (y, yend - y))
  | _, _ => ((0, 0), (0, 0))

/-- A range of lines in the unified form. -/
def unifiedRange (first count : Nat) : String :=
  if count = 0 then toString first ++ ",0"
  else if count = 1 then toString (first + 1)
  else toString (first + 1) ++ "," ++ toString count

/-- The lines of a group in the unified form, from a line of the first text on. -/
def unifiedLines (xs ys : Array String) (stop : Nat) : Nat → List Change → String
  | at_, [] => String.join ((linesIn xs at_ (stop - at_)).map (markedLine " "))
  | at_, c :: rest =>
    String.join ((linesIn xs at_ (c.first - at_)).map (markedLine " ")) ++
      String.join ((linesIn xs c.first c.deleted).map (markedLine "-")) ++
      String.join ((linesIn ys c.second c.inserted).map (markedLine "+")) ++
      unifiedLines xs ys stop (c.first + c.deleted) rest

/-- A group of changes in the unified form. -/
def unifiedText (context : Nat) (xs ys : Array String) (group : List Change) : String :=
  let ((x, xcount), (y, ycount)) := groupSpan context xs ys group
  "@@ -" ++ unifiedRange x xcount ++ " +" ++ unifiedRange y ycount ++ " @@\n" ++
    unifiedLines xs ys (x + xcount) x group

/-- A range of lines in the form with context. -/
def contextRange (first count : Nat) : String :=
  if count ≤ 1 then toString (first + count)
  else toString (first + 1) ++ "," ++ toString (first + count)

/-- The lines of one side of a group in the form with context. -/
def contextLines (lines : Array String) (own : Change → Nat × Nat) (mark : Change → String)
    (stop : Nat) : Nat → List Change → String
  | at_, [] => String.join ((linesIn lines at_ (stop - at_)).map (markedLine "  "))
  | at_, c :: rest =>
    let (first, count) := own c
    String.join ((linesIn lines at_ (first - at_)).map (markedLine "  ")) ++
      String.join ((linesIn lines first count).map (markedLine (mark c))) ++
      contextLines lines own mark stop (first + count) rest

/-- A group of changes in the form with context. -/
def contextText (context : Nat) (xs ys : Array String) (group : List Change) : String :=
  let ((x, xcount), (y, ycount)) := groupSpan context xs ys group
  let mark (alone : String) (c : Change) : String :=
    if c.deleted ≠ 0 && c.inserted ≠ 0 then "! " else alone
  let deletes := group.any (·.deleted ≠ 0)
  let inserts := group.any (·.inserted ≠ 0)
  "***************\n*** " ++ contextRange x xcount ++ " ****\n" ++
    (if deletes then
      contextLines xs (fun c => (c.first, c.deleted)) (mark "- ") (x + xcount) x group else "") ++
    "--- " ++ contextRange y ycount ++ " ----\n" ++
    if inserts then
      contextLines ys (fun c => (c.second, c.inserted)) (mark "+ ") (y + ycount) y group
    else ""

/-- Blanks from a column to another one, as few as tabs allow. -/
def blanksTo (fuel column target : Nat) : List Char :=
  match fuel with
  | 0 => []
  | fuel + 1 =>
    let next := column + 8 - column % 8
    if next ≤ target then '\t' :: blanksTo fuel next target
    else List.replicate (target - column) ' '

/-- A line of two columns. -/
def columnLine (width : Nat) (left : Option String) (mark : Char) (right : Option String) :
    String :=
  let off := width / 2 + 5 + width % 2
  let second := off - off % 8
  let half := min (second - 3) (width - second)
  let cut (line : String) : List Char := (chomp line).toList.take half
  let isEnded (line : Option String) : Bool := line.any (·.endsWith "\n")
  let start := (left.map cut).getD []
  let mark :=
    if mark = '|' && isEnded left != isEnded right then (if isEnded left then '/' else '\\')
    else mark
  let markColumn := (half + second - 1) / 2
  let (head, column) :=
    if mark = ' ' then (start, start.length)
    else (start ++ blanksTo width start.length markColumn ++ [mark], markColumn + 1)
  let tail :=
    match right with
    | some line =>
      if (chomp line).isEmpty then [] else blanksTo width column second ++ cut line
    | none => []
  String.ofList (head ++ tail ++ if isEnded left || isEnded right then ['\n'] else [])

/-- Two texts beside each other, from a line of each on. -/
def columnText (m : DiffManner) (xs ys : Array String) : Nat → Nat → List Change → String
  | x, y, [] => shared (xs.size - x) x y
  | x, y, c :: rest =>
    let left := linesIn xs c.first c.deleted
    let right := linesIn ys c.second c.inserted
    let both := min c.deleted c.inserted
    shared (c.first - x) x y ++
      String.join ((left.zip right).map fun (l, r) => columnLine m.width (some l) '|' (some r)) ++
      String.join ((left.drop both).map fun l => columnLine m.width (some l) '<' none) ++
      String.join ((right.drop both).map fun r => columnLine m.width none '>' (some r)) ++
      columnText m xs ys (c.first + c.deleted) (c.second + c.inserted) rest
where
  /-- Lines that are the same in both. -/
  shared (count x y : Nat) : String :=
    if m.omitsShared then ""
    else
      String.join (((linesIn xs x count).zip (linesIn ys y count)).map fun (l, r) =>
        if m.leftOnly then columnLine m.width (some l) '(' none
        else columnLine m.width (some l) ' ' (some r))

/-- What is said about two texts that differ. -/
def DiffManner.text (m : DiffManner) (names : String × String) (times : Int × Int)
    (xs ys : Array String) (changes : List Change) : String :=
  let pattern :=
    match m.form with
    | .context _ => "%a %b %e %H:%M:%S %Y"
    | _ => "%Y-%m-%d %H:%M:%S.%N %z"
  let label (index : Nat) (name : String) (time : Int) : String :=
    (m.labels[index]?).getD (name ++ "\t" ++ Text.Moment.format pattern time)
  let heads (first second : String) : String :=
    first ++ " " ++ label 0 names.1 times.1 ++ "\n" ++
      second ++ " " ++ label 1 names.2 times.2 ++ "\n"
  match m.form with
  | .normal => String.join (changes.map (normalText xs ys))
  | .commands => String.join (changes.reverse.map (commandText ys))
  | .numbered => String.join (changes.map (numberedText ys))
  | .columns => columnText m xs ys 0 0 changes
  | .unified n =>
    heads "---" "+++" ++ String.join ((nearGroups n changes).map (unifiedText n xs ys))
  | .context n =>
    heads "***" "---" ++ String.join ((nearGroups n changes).map (contextText n xs ys))

/-! ## Files -/

/-- Something that is compared: a file with what it holds and the time of its last change, a
directory, or nothing. -/
inductive Compared where
  | text (text : String) (time : Int)
  | directory (entries : List (String × Disk.Node))
  | absent
  | faulty (fault : Disk.Fault)

/-- What is at a path, or at the input for a dash. -/
def comparedAt (path : String) : Act Compared := do
  if path = "-" then
    match ← Act.unread 0 with
    | .ok bytes => return .text (Text.octetsOf bytes) (← now)
    | .error fault => return .faulty fault
  match ← Act.look path with
  | .error .notFound => return .absent
  | .error fault => return .faulty fault
  | .ok (_, node) =>
    if node.isDir then return .directory node.entries
    match ← Act.readFile path with
    | .ok text => return .text text (changeTime node)
    | .error fault => return .faulty fault

/-- Compares two texts, each with the time of its last change. -/
def DiffManner.texts (m : DiffManner) (names : String × String) (heading : Option String) :
    String × Int → String × Int → Act Nat := fun (first, since) (second, till) => do
  let same : Act Nat := do
    if m.tellsSame then
      Act.sayLine
        ("Files " ++ shellText names.1 ++ " and " ++ shellText names.2 ++ " are identical")
    return 0
  let differ : Act Nat := do
    Act.sayLine ("Files " ++ shellText names.1 ++ " and " ++ shellText names.2 ++ " differ")
    return 1
  let xs := (linesOf first).toArray
  let ys := (linesOf second).toArray
  if first = second && m.form ≠ .columns then return ← same
  let isBinary (text : String) : Bool := (text.toList.take 32768).contains '\x00'
  if !m.asText && (isBinary first || isBinary second) then
    if m.brief then return ← differ
    Act.sayLine ("Binary files " ++ shellText names.1 ++ " and " ++ shellText names.2 ++ " differ")
    return 1
  let margin :=
    match m.form with
    | .unified n | .context n => n
    | _ => 0
  let changes := Text.changes margin (xs.map m.lines.key) (ys.map m.lines.key)
  let isBlank (line : String) : Bool := (chomp line).isEmpty
  let counts (c : Change) : Bool :=
    !m.ignoresBlankLines || !(linesIn xs c.first c.deleted).all isBlank ||
      !(linesIn ys c.second c.inserted).all isBlank
  let counted := changes.filter counts
  if counted.isEmpty && m.form ≠ .columns then return ← same
  if m.brief && !counted.isEmpty then return ← differ
  if let some heading := heading then Act.sayLine heading
  Act.say (m.text names (since, till) xs ys (if m.form = .columns then changes else counted))
  return if counted.isEmpty then 0 else 1

/-- A path below a directory. -/
def below (directory name : String) : String :=
  if directory.endsWith "/" then directory ++ name else directory ++ "/" ++ name

mutual

/-- Compares what is at two paths, below two others if they are not the operands. -/
def DiffManner.paths (m : DiffManner) : Nat → Bool → String × String → Act Nat
  | 0, _, _ => return 2
  | fuel + 1, isOperand, (first, second) => do
    let missing (path : String) (fault : Disk.Fault) : Act Nat := do
      m.call.complain (path ++ ": " ++ fault.reason)
      return 2
    let heading :=
      if isOperand then none
      else some (String.intercalate " " ("diff" :: m.words.map shellText ++ [first, second]))
    let x ← comparedAt first
    let y ← comparedAt second
    match x, y with
    | .faulty f, _ =>
      let status ← missing first f
      if let .faulty g := y then return ← missing second g
      if let .absent := y then return ← missing second .notFound
      return status
    | _, .faulty f => missing second f
    | .absent, .absent =>
      let _ ← missing first .notFound
      missing second .notFound
    | .absent, .text text time =>
      if m.absentIsEmpty then m.texts (first, second) heading ("", 0) (text, time)
      else missing first .notFound
    | .text text time, .absent =>
      if m.absentIsEmpty then m.texts (first, second) heading (text, time) ("", 0)
      else missing second .notFound
    | .absent, .directory entries =>
      if m.absentIsEmpty && m.recursive then m.entries fuel (first, second) [] entries
      else missing first .notFound
    | .directory entries, .absent =>
      if m.absentIsEmpty && m.recursive then m.entries fuel (first, second) entries []
      else missing second .notFound
    | .text a since, .text b till => m.texts (first, second) heading (a, since) (b, till)
    | .directory a, .directory b =>
      if isOperand || m.recursive then m.entries fuel (first, second) a b
      else
        Act.sayLine ("Common subdirectories: " ++ first ++ " and " ++ second)
        return 0
    | .directory _, .text _ _ =>
      if isOperand then m.paths fuel isOperand (below first (baseName second), second)
      else
        Act.sayLine ("File " ++ first ++ " is a directory while file " ++ second ++
          " is a regular " ++ (← kindOf second))
        return 1
    | .text _ _, .directory _ =>
      if isOperand then m.paths fuel isOperand (first, below second (baseName first))
      else
        Act.sayLine ("File " ++ first ++ " is a regular " ++ (← kindOf first) ++ " while file " ++
          second ++ " is a directory")
        return 1

/-- Compares the entries of two directories. -/
def DiffManner.entries (m : DiffManner) (fuel : Nat) (paths : String × String)
    (first second : List (String × Disk.Node)) : Act Nat := do
  match fuel with
  | 0 => return 2
  | fuel + 1 =>
    let names := (first ++ second).map fun e => Text.octets e.1
    let names := (Disk.Node.sorted ((names.eraseDups).map fun n => (n, ()))).map (·.1)
    let names := names.filter fun n =>
      !m.excluded.any fun p => Text.Pattern.isMatch p.toList n.toList
    let has (entries : List (String × Disk.Node)) (name : String) : Bool :=
      entries.any fun e => Text.octets e.1 = name
    let mut status := 0
    for name in names do
      let one ←
        if m.absentIsEmpty || (has first name && has second name) then
          m.paths fuel false (below paths.1 name, below paths.2 name)
        else do
          let directory := if has first name then paths.1 else paths.2
          Act.sayLine ("Only in " ++ directory ++ ": " ++ name)
          pure 1
      status := max status one
    return status

/-- Whether a file holds anything, in words. -/
def kindOf (path : String) : Act String := do
  match ← Act.look path with
  | .ok (_, .file bytes _) => return if bytes.isEmpty then "empty file" else "file"
  | _ => return "file"

end

/-- The options of `diff`. -/
def diffSwitches : List Switch :=
  [word "normal", named 'q' "brief", named 's' "report-identical-files", { letter := some 'c' },
    { letter := some 'C', takes := .something }, word "context" .perhaps, { letter := some 'u' },
    { letter := some 'U', takes := .something }, word "unified" .perhaps, named 'e' "ed",
    named 'n' "rcs", named 'y' "side-by-side", named 'W' "width" .something, word "left-column",
    word "suppress-common-lines", named 'p' "show-c-function",
    named 'F' "show-function-line" .something, word "label" .something,
    named 'L' "label" .something,
    named 't' "expand-tabs", named 'T' "initial-tab", word "tabsize" .something,
    word "suppress-blank-empty", named 'l' "paginate", named 'r' "recursive", word "no-dereference",
    named 'N' "new-file", word "unidirectional-new-file", named 'x' "exclude" .something,
    named 'i' "ignore-case", named 'E' "ignore-tab-expansion", named 'Z' "ignore-trailing-space",
    named 'b' "ignore-space-change", named 'w' "ignore-all-space", named 'B' "ignore-blank-lines",
    named 'a' "text", word "strip-trailing-cr", named 'd' "minimal", word "color" .perhaps,
    named 'H' "speed-large-files", word "from-file" .something, word "to-file" .something] ++
  "0123456789".toList.map fun c => { letter := some c }

/-- The arguments before the first operand that are options or values of options. -/
def optionWords (operands : List String) (args : List String) : List String :=
  (args.reverse.foldl (fun (kept, left) arg =>
    if left.head? = some arg then (kept, left.tail) else (arg :: kept, left))
    (([] : List String), operands.reverse)).1

/-- The number of lines around changes that is given with digits as options. -/
def digitLines (args : List String) : Option Nat :=
  let digits := args.flatMap fun arg =>
    match arg.toList with
    | '-' :: '-' :: _ => []
    | '-' :: cs => cs.filter Char.isDigit
    | _ => []
  if digits.isEmpty then none else natural? (String.ofList digits)

/-- Says what differs between files or directories. -/
def diff : Program := fun call => do
  let misuse {α : Type} (text : String) : Act α := do
    call.complain text
    call.complain ("Try '" ++ call.name ++ " --help' for more information.")
    throw 2
  match readArguments (diffSwitches ++ usualSwitches) true call.args with
  | .error fault => misuse fault.text
  | .ok a =>
    if a.has "help" || a.has "version" then return 0
    let lines (key : String) : Act (Option Nat) := do
      match a.value? key with
      | none => return none
      | some "" => return some 3
      | some text =>
        match natural? text with
        | some n => return some n
        | none => misuse ("invalid context length " ++ shellQuoted text)
    let unified := (← lines "U").or (← lines "unified")
    let contextual := (← lines "C").or (← lines "context")
    let inDigits := digitLines (call.args.filter (!a.operands.contains ·))
    let form : DiffForm :=
      match a.last? ["normal", "c", "C", "context", "u", "U", "unified", "e", "n", "y"] with
      | some "u" | some "U" | some "unified" => .unified ((inDigits.or unified).getD 3)
      | some "c" | some "C" | some "context" => .context ((inDigits.or contextual).getD 3)
      | some "e" => .commands
      | some "n" => .numbered
      | some "y" => .columns
      | _ => .normal
    let m : DiffManner := {
      call
      form
      lines := {
        letterCase := a.has "i", blankNumber := a.has "b", blanks := a.has "w",
        lastBlanks := a.has "Z", lastReturn := a.has "strip-trailing-cr" }
      ignoresBlankLines := a.has "B"
      brief := a.has "q"
      tellsSame := a.has "s"
      recursive := a.has "r"
      absentIsEmpty := a.has "N"
      asText := a.has "a"
      labels := (a.options.filter fun o => o.1 = "label" || o.1 = "L").map (·.2)
      excluded := a.values "x"
      words := optionWords a.operands call.args
      width := ((a.value? "W").bind natural?).getD 130
      omitsShared := a.has "suppress-common-lines"
      leftOnly := a.has "left-column" }
    match a.value? "from-file", a.value? "to-file", a.operands with
    | some path, _, operands => forEach (fun p => m.paths 1000 true (path, p)) operands
    | none, some path, operands => forEach (fun p => m.paths 1000 true (p, path)) operands
    | none, none, [] =>
      misuse ("missing operand after " ++ textQuoted (call.args.getLast?.getD call.name))
    | none, none, [path] => misuse ("missing operand after " ++ textQuoted path)
    | none, none, [first, second] => m.paths 1000 true (first, second)
    | none, none, _ :: _ :: extra :: _ => misuse ("extra operand " ++ textQuoted extra)

end ContractBindings.Utility
