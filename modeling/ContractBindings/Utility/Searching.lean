import ContractBindings.Text.Regex.Reader
import ContractBindings.Utility.Lines

/-!
# Searching

`grep` says the lines that match a pattern.
-/

namespace ContractBindings.Utility

open Process
open Text (Regex RegexForm Subject)

/-- What `grep` looks for, and how it tells what it has found. -/
structure Search where
  patterns : List Regex
  ignoresCase : Bool := false
  inverse : Bool := false
  wholeLines : Bool := false
  wholeWords : Bool := false
  counts : Bool := false
  /-- Only the parts that match. -/
  onlyParts : Bool := false
  /-- Only the names of inputs with matches, or without. -/
  namesMatching : Bool := false
  namesOthers : Bool := false
  silent : Bool := false
  numbers : Bool := false
  offsets : Bool := false
  named : Bool := false
  most : Option Nat := none
  before : Nat := 0
  after : Nat := 0
  /-- Every file is text. -/
  asText : Bool := false
  /-- Inputs that are no text have no matches. -/
  skipsBinary : Bool := false
  /-- What ends a line. -/
  terminator : Char := '\n'
  /-- What ends the name of an input that stands alone, or comes before a line. -/
  nameEnd : Option Char := none

namespace Search

/-- The place is not within a word. -/
def isWordEdge (s : Subject) (first last : Nat) : Bool :=
  (first = 0 || !s.isWordAt (first - 1)) && !s.isWordAt last

/-- The ends that a match from a place may have. -/
def endsAt (g : Search) (s : Subject) (r : Regex) (first : Nat) : List Nat :=
  let settle := if r.looksBack then Subject.settleAll else s.settle
  let ends := (r.ends s settle { spot := first }).map (·.spot)
  if g.wholeLines then ends.filter fun last => first = 0 && last = s.text.size
  else if g.wholeWords then ends.filter (isWordEdge s first)
  else ends

/-- The longest match of all patterns from a place. -/
def endAt? (g : Search) (s : Subject) (first : Nat) : Option Nat :=
  (g.patterns.filterMap fun r => (g.endsAt s r first).head?).max?

/-- The matches in a line from a place on, as far as they are not empty. -/
def parts (g : Search) (s : Subject) : Nat → Nat → List (Nat × Nat)
  | 0, _ => []
  | fuel + 1, first =>
    match g.endAt? s first with
    | some last =>
      if first < last then (first, last) :: parts g s fuel last else parts g s fuel (first + 1)
    | none => parts g s fuel (first + 1)

/-- The line is one that is looked for. -/
def wants (g : Search) (s : Subject) : Bool :=
  let places := if g.wholeLines then 1 else s.text.size + 1
  ((List.range places).any fun first => (g.endAt? s first).isSome) != g.inverse

/-- A line of an input. -/
structure Line where
  number : Nat
  offset : Nat
  text : String
  wanted : Bool

/-- The lines of a text. -/
def linesIn (g : Search) (text : String) : List Line :=
  let flip (c : Char) : Char :=
    if c = g.terminator then '\n' else if c = '\n' then g.terminator else c
  let own := if g.terminator = '\n' then text else String.ofList (text.toList.map flip)
  let rec go (number offset found : Nat) : List String → List Line
    | [] => []
    | line :: rest =>
      let cs := (chomp line).toList
      let cs := if g.terminator = '\n' then cs else cs.map flip
      let enough := g.most.any (· ≤ found)
      let wanted := !enough && g.wants
        { text := cs.toArray, ignoresCase := g.ignoresCase, hasLines := g.terminator ≠ '\n' }
      { number, offset, text := String.ofList cs, wanted } ::
        go (number + 1) (offset + line.length) (if wanted then found + 1 else found) rest
  go 1 0 0 (linesOf own)

/-- What comes before a line or a part of it. -/
def head (g : Search) (name : String) (line : Line) (offset : Nat) (mark : String) : String :=
  (if g.named then name ++ (g.nameEnd.map String.singleton).getD mark else "") ++
    (if g.numbers then toString line.number ++ mark else "") ++
    (if g.offsets then toString offset ++ mark else "")

/-- Says a wanted line, or the parts of it. -/
def sayWanted (g : Search) (name : String) (line : Line) : Act Unit := do
  if g.onlyParts then
    if !g.inverse then
      let s : Subject := { text := line.text.toList.toArray, ignoresCase := g.ignoresCase }
      for (first, last) in g.parts s (s.text.size + 1) 0 do
        Act.say (g.head name line (line.offset + first) ":" ++ s.part first last ++ "\n")
  else
    Act.say (g.head name line line.offset ":" ++ line.text ++ String.singleton g.terminator)

/-- Says the wanted lines with those around them. `last` is the number of the line that was said
last, `wait` counts the lines that still follow a wanted one, and `held` are the lines before. -/
def sayLines (g : Search) (name : String) (last wait : Nat) (held : List Line) :
    List Line → Act Unit
  | [] => return
  | line :: rest => do
    let aside (l : Line) : Act Unit := do
      if !g.onlyParts then
        Act.say (g.head name l l.offset "-" ++ l.text ++ String.singleton g.terminator)
    if line.wanted then
      let before := (held.take g.before).reverse
      let first := (before.head?.getD line).number
      if (g.before ≠ 0 || g.after ≠ 0) && last ≠ 0 && last + 1 < first then Act.sayLine "--"
      for l in before do aside l
      g.sayWanted name line
      g.sayLines name line.number g.after [] rest
    else if wait ≠ 0 then
      aside line
      g.sayLines name line.number (wait - 1) [] rest
    else g.sayLines name last 0 (line :: held.take g.before) rest

/-- Searches a text. The result tells whether anything was found. -/
def inText (g : Search) (name text : String) : Act Bool := do
  let lines := g.linesIn text
  let count := (lines.filter (·.wanted)).length
  let binary := !g.asText && g.terminator = '\n' && text.toList.contains '\x00'
  let count := if binary && g.skipsBinary then 0 else count
  let found := count ≠ 0
  if g.silent then return found
  let alone := name ++ String.singleton (g.nameEnd.getD '\n')
  if g.namesMatching then
    if found then Act.say alone
  else if g.namesOthers then
    if !found then Act.say alone
  else if g.counts then
    let head := if g.named then name ++ (g.nameEnd.map String.singleton).getD ":" else ""
    Act.sayLine (head ++ toString count)
  else if found then
    if binary then
      Act.sendHeld
      Act.complain ("grep: " ++ name ++ ": binary file matches")
    else g.sayLines name 0 0 [] lines
  return if g.namesOthers then !found else found

end Search

/-- The options of `grep`. -/
def grepSwitches : List Switch :=
  [named 'i' "ignore-case", named 'v' "invert-match", named 'x' "line-regexp",
    named 'w' "word-regexp", named 'c' "count", named 'o' "only-matching",
    named 'l' "files-with-matches", named 'L' "files-without-match", named 'q' "quiet",
    word "silent", named 's' "no-messages", named 'n' "line-number", named 'b' "byte-offset",
    named 'H' "with-filename", named 'h' "no-filename", named 'm' "max-count" .something,
    named 'A' "after-context" .something, named 'B' "before-context" .something,
    named 'C' "context" .something, named 'e' "regexp" .something, named 'f' "file" .something,
    named 'F' "fixed-strings", named 'E' "extended-regexp", named 'G' "basic-regexp",
    named 'P' "perl-regexp", named 'r' "recursive", named 'R' "dereference-recursive",
    named 'a' "text", named 'z' "null-data", named 'Z' "null", named 'U' "binary",
    named 'T' "initial-tab", named 'd' "directories" .something,
    named 'D' "devices" .something, word "include" .something, word "exclude" .something,
    word "exclude-dir" .something, word "color" .perhaps, word "colour" .perhaps,
    word "label" .something, word "binary-files" .something, word "line-buffered",
    word "no-ignore-case"] ++ letters "yIu"

/-- Puts an option in place of a number after a dash, which asks for lines around. -/
def spellOutContext : List String → List String
  | [] => []
  | arg :: rest =>
    match arg.toList with
    | '-' :: d :: cs =>
      if arg = "--" then arg :: rest
      else if d.isDigit then
        let digits := (d :: cs).takeWhile Char.isDigit
        let others := (d :: cs).drop digits.length
        let own := if others.isEmpty then [] else [String.ofList ('-' :: others)]
        "-C" :: String.ofList digits :: own ++ spellOutContext rest
      else if d ≠ '-' && String.singleton d ∈ ["e", "f", "A", "B", "C", "m"] && cs.isEmpty then
        match rest with
        | value :: rest => arg :: value :: spellOutContext rest
        | [] => [arg]
      else arg :: spellOutContext rest
    | _ => arg :: spellOutContext rest

/-- Ends `grep` for arguments that it does not understand. -/
def grepUsage {α : Type} : Act α :=
  Act.giveUp 2 "Usage: grep [OPTION]... PATTERNS [FILE]...\nTry 'grep --help' for more information."

/-- The number that an option has as a value. -/
def countValue (c : Call) (a : Arguments) (key : String) (complaint : String → String) :
    Act (Option Nat) := do
  match a.value? key with
  | none => return none
  | some text =>
    match natural? text with
    | some n => return some n
    | none =>
      c.complain (complaint text)
      throw 2

/-- The texts of the patterns, which are parted by line ends. -/
def patternTexts (c : Call) (a : Arguments) : Act (List String × List String) := do
  let mut texts : List String := []
  for (key, value) in a.options do
    if key = "e" then texts := texts ++ value.splitOn "\n"
    else if key = "f" then
      match ← readInput value with
      | .error fault =>
        c.complain (value ++ ": " ++ fault.reason)
        throw 2
      | .ok text => texts := texts ++ plainLines text
  if a.has "e" || a.has "f" then return (texts, a.operands)
  else
    match a.operands with
    | [] => grepUsage
    | first :: rest => return (first.splitOn "\n", rest)

/-- Reads a pattern. -/
def grepPattern (c : Call) (kind : String) (text : String) : Act Regex := do
  if kind = "F" then
    return (text.toList.map Text.ReadRegex.single).foldr Regex.cat .empty
  let form : RegexForm := { extended := kind ≠ "G", lenient := true }
  match Regex.read form text with
  | .error fault =>
    c.complain fault.text
    throw 2
  | .ok (r, idle) =>
    let cs := text.toList
    if cs.take 2 = ['[', ':'] && cs.length ≥ 4 && cs.drop (cs.length - 2) = [':', ']'] then
      c.complain "character class syntax is [[:space:]], not [:space:]"
      throw 2
    for op in idle do
      c.complain ("warning: " ++ op ++ " at start of expression")
    return r

/-- The files at and below paths, in order. -/
def filesBelow : Nat → String → Disk.Node → List String
  | 0, path, _ => [path]
  | depth + 1, path, .dir entries =>
    entries.flatMap fun e =>
      match e.2 with
      | .file .. => [Disk.Path.join path (Text.octets e.1)]
      | .dir _ => filesBelow depth (Disk.Path.join path (Text.octets e.1)) e.2
      | _ => []
  | _ + 1, path, _ => [path]

/-- Says the lines that match a pattern. -/
def grep : Program := fun c => do
  let a ←
    match readArguments (grepSwitches ++ usualSwitches) true (spellOutContext c.args) with
    | .error fault =>
      c.complain fault.text
      grepUsage
    | .ok a => pure a
  if a.has "help" || a.has "version" then throw 0
  let around (key : String) : Act (Option Nat) :=
    countValue c a key (fun text => text ++ ": invalid context length argument")
  let both := (← around "C").getD 0
  let before := (← around "B").getD both
  let after := (← around "A").getD both
  let most ← countValue c a "m" (fun _ => "invalid max count")
  let (texts, paths) ← patternTexts c a
  let kind := (a.last? ["F", "E", "G", "P"]).getD "G"
  let patterns ← texts.mapM (grepPattern c kind)
  let deep := a.has "r" || a.has "R" || a.value? "d" = some "recurse"
  let paths := if paths.isEmpty then (if deep then ["."] else ["-"]) else paths
  let bare := a.operands.length = (if a.has "e" || a.has "f" then 0 else 1) && deep
  let binary := a.value? "binary-files"
  let g : Search := {
    patterns, most, before, after
    ignoresCase := a.has "i" || a.has "y"
    inverse := a.has "v"
    wholeLines := a.has "x"
    wholeWords := a.has "w"
    counts := a.has "c"
    onlyParts := a.has "o"
    namesMatching := a.has "l"
    namesOthers := a.has "L"
    silent := a.has "q" || a.has "silent"
    numbers := a.has "n"
    offsets := a.has "b"
    named :=
      match a.last? ["H", "h"] with
      | some key => key = "H"
      | none => deep || 1 < paths.length
    asText := a.has "a" || binary = some "text"
    skipsBinary := a.has "I" || binary = some "without-match"
    terminator := if a.has "z" then '\x00' else '\n'
    nameEnd := if a.has "Z" then some '\x00' else none }
  let quiet := a.has "s"
  if most = some 0 && !a.has "L" then throw 1
  let mut found := false
  let mut failed := false
  for path in paths do
    let below ←
      if path = "-" then pure [path]
      else do
        match ← Act.look path with
        | .ok (_, node) =>
          if node.isDir && deep then
            let all := filesBelow Disk.Path.maxBytes path node
            pure (if bare then all.map fun p => String.ofList (p.toList.drop 2) else all)
          else pure [path]
        | .error _ => pure [path]
    for path in below do
      if !(found && g.silent) then
        match ← readInput path with
        | .error fault =>
          let isDir := fault = .isDirectory
          if !(isDir && a.value? "d" = some "skip") then
            if !quiet then c.complain (path ++ ": " ++ fault.reason)
            failed := true
            if isDir && g.counts then let _ ← g.inText path ""
        | .ok text =>
          let name := if path = "-" then (a.value? "label").getD "(standard input)" else path
          if ← g.inText name text then found := true
  return if failed && !(found && g.silent) then 2 else if found then 0 else 1

/-- `grep` with an option that its name stands for. -/
def grepWith (option : String) : Program := fun c => grep ⟨"grep", option :: c.args⟩

end ContractBindings.Utility
