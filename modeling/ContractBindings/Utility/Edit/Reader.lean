import ContractBindings.Text.Regex.Reader
import ContractBindings.Utility.Edit.Script

/-!
# Reading edit scripts

A script comes in pieces: arguments, of which a complaint gives the number and the place in it, and
files, of which it gives the name and the line.
-/

namespace ContractBindings.Utility.Edit

open Text (Regex RegexForm)

/-- A piece of a script. -/
structure Source where
  text : List Char
  /-- The name of the file. -/
  file : Option String := none
  /-- The number among the arguments. -/
  number : Nat := 0

/-- What has been read of a script. -/
structure Reading where
  source : Source
  rest : List Char
  /-- The pieces that follow. -/
  later : List Source
  form : RegexForm
  script : Script := {}
  /-- The blocks that are open, with the piece of each. -/
  blocks : List (Nat × Source) := []
  /-- Files that are written to, the last first. -/
  files : List String := []

/-- Steps in reading a script. -/
abbrev Read := StateT Reading (Except (Nat × String))

namespace Read

/-- What a complaint says about a place in a piece. -/
def place (s : Source) (read : Nat) : String :=
  match s.file with
  | some file =>
    let lines := ((s.text.take read).filter (· = '\n')).length + 1
    "file " ++ file ++ " line " ++ toString lines ++ ": "
  | none => "-e expression #" ++ toString s.number ++ ", char " ++ toString read ++ ": "

/-- Refuses the script. -/
def refuse {α : Type} (text : String) : Read α := do
  let s ← MonadState.get
  throw (1, place s.source (s.source.text.length - s.rest.length) ++ text)

/-- Reads a character. -/
def next? : Read (Option Char) := do
  let s ← MonadState.get
  match s.rest with
  | [] => return none
  | c :: rest =>
    MonadState.set { s with rest }
    return some c

/-- The character that comes next. -/
def peek? : Read (Option Char) := return (← MonadState.get).rest.head?

/-- Reads characters as long as they pass a test. -/
def many (test : Char → Bool) : Read (List Char) := do
  let s ← MonadState.get
  MonadState.set { s with rest := s.rest.dropWhile test }
  return s.rest.takeWhile test

/-- Skips blanks. -/
def blanks : Read Unit := do
  let _ ← many fun c => c = ' ' || c = '\t'

/-- Reads a number. -/
def number : Read Nat := do
  let digits ← many Char.isDigit
  return digits.foldl (fun n c => n * 10 + (c.toNat - '0'.toNat)) 0

/-- Whether a digit comes next. -/
def digitNext : Read Bool := return (← peek?).any Char.isDigit

/-! ## Delimited texts -/

/-- Takes a set in a pattern off a text, after its opening bracket: all up to the closing
bracket. -/
def bracketed (isFirst : Bool) : List Char → Option (List Char × List Char)
  | [] => none
  | '\n' :: _ => none
  | ']' :: rest =>
    if isFirst then (bracketed false rest).map fun (own, after) => (']' :: own, after)
    else some ([']'], rest)
  | '[' :: ':' :: rest => (bracketed false rest).map fun (own, after) => ('[' :: ':' :: own, after)
  | ':' :: ']' :: rest =>
    (bracketed false rest).map fun (own, after) => (':' :: ']' :: own, after)
  | c :: rest =>
    (bracketed (isFirst && c = '^') rest).map fun (own, after) => (c :: own, after)

/-- Takes off a text what comes before a delimiter. A delimiter after a backslash does not count,
and in a pattern none in a set does. -/
def untilMark (mark : Char) (isPattern : Bool) : Nat → List Char → Option (List Char × List Char)
  | 0, _ => none
  | fuel + 1, cs =>
    match cs with
    | [] => none
    | '\\' :: c :: rest =>
      let own :=
        if c = mark && !(!isPattern && c = '&') then [c]
        else if c = 'n' && isPattern then ['\\', 'n']
        else ['\\', c]
      (untilMark mark isPattern fuel rest).map fun (others, after) => (own ++ others, after)
    | c :: rest =>
      if c = mark then some ([], rest)
      else if c = '\n' then none
      else if c = '[' && isPattern then
        match bracketed true rest with
        | none => none
        | some (set, rest) =>
          (untilMark mark isPattern fuel rest).map fun (others, after) =>
            ('[' :: set ++ others, after)
      else (untilMark mark isPattern fuel rest).map fun (others, after) => (c :: others, after)

/-- Reads a text up to a delimiter. Nothing comes back if the delimiter is missing. -/
def delimited (mark : Char) (isPattern : Bool) : Read (Option (List Char)) := do
  let s ← MonadState.get
  match untilMark mark isPattern (s.rest.length + 1) s.rest with
  | some (own, rest) =>
    MonadState.set { s with rest }
    return some own
  | none =>
    let _ ← many (· ≠ '\n')
    return none

/-- Reads a pattern that has been cut out of a script. -/
def pattern (text : List Char) (ignoresCase hasLines : Bool) : Read Pattern := do
  if text.isEmpty then
    if ignoresCase || hasLines then refuse "cannot specify modifiers on empty regexp"
    return { regex := none, ignoresCase, hasLines }
  else
    match Regex.read (← MonadState.get).form (String.ofList text) with
    | .ok (r, _) => return { regex := some r, ignoresCase, hasLines }
    | .error fault => refuse fault.text

/-! ## Addresses -/

/-- Reads the letters after the pattern of an address. -/
def patternLetters : Nat → Bool → Bool → Read (Bool × Bool)
  | 0, i, m => return (i, m)
  | fuel + 1, i, m => do
    blanks
    match ← peek? with
    | some 'I' =>
      let _ ← next?
      patternLetters fuel true m
    | some 'M' =>
      let _ ← next?
      patternLetters fuel i true
    | _ => return (i, m)

/-- Reads an address. -/
def address? : Read (Option RangeEnd) := do
  match ← peek? with
  | none => return none
  | some c =>
    if c = '/' || c = '\\' then
      let _ ← next?
      let mark? ← if c = '\\' then next? else pure (some c)
      match mark? with
      | none => refuse "unterminated address regex"
      | some mark =>
        match ← delimited mark true with
        | none => refuse "unterminated address regex"
        | some text =>
          let (i, m) ← patternLetters ((← MonadState.get).rest.length + 1) false false
          return some (.at (.pattern (← pattern text i m)))
    else if c.isDigit then
      let first ← number
      blanks
      if (← peek?) = some '~' then
        let _ ← next?
        blanks
        let step ← number
        return some (.at (if step = 0 then .line first else .step first step))
      else return some (.at (.line first))
    else if c = '+' || c = '~' then
      let _ ← next?
      blanks
      let n ← number
      return some (if c = '+' then .more n else .multiple n)
    else if c = '$' then
      let _ ← next?
      return some (.at .last)
    else return none

/-- Reads what selects the lines for a command. -/
def selection : Read Selection := do
  let first? ← address?
  let (first, last) ←
    match first? with
    | none => pure (none, none)
    | some (.at first) => do
      blanks
      let mut last : Option RangeEnd := none
      if (← peek?) = some ',' then
        let _ ← next?
        blanks
        match ← address? with
        | some e => last := some e
        | none =>
          let _ ← next?
          refuse "unexpected \x60,'"
        blanks
      match first, last with
      | .line 0, some (.at (.pattern _)) => pure ()
      | .line 0, _ =>
        let _ ← next?
        refuse "invalid usage of line address 0"
      | _, _ => pure ()
      pure (some first, last)
    | some _ => refuse "invalid usage of +N or ~N as first address"
  if (← peek?) = some '!' then
    let _ ← next?
    blanks
    if (← peek?) = some '!' then
      let _ ← next?
      refuse "multiple \x60!'s"
    return { first, last, negated := true }
  return { first, last }

/-! ## The rest of commands -/

/-- Reads the end of a command. -/
def commandEnd : Read Unit := do
  blanks
  match ← peek? with
  | none | some '\x7d' | some '#' => return
  | some c =>
    let _ ← next?
    if c ≠ '\n' && c ≠ ';' then refuse "extra characters after command"

/-- Reads a label. -/
def label : Read String := do
  blanks
  return String.ofList (← many fun c => !c.isWhitespace && c ≠ ';' && c ≠ '\x7d')

/-- Reads the name of a file, which goes to the end of the line. -/
def fileName : Read String := do
  blanks
  let name ← many (· ≠ '\n')
  if name.isEmpty then refuse "missing filename in r/R/w/W commands"
  let _ ← next?
  return String.ofList name

/-- Reads the name of a file that will be written to. -/
def targetName : Read String := do
  let name ← fileName
  modify fun s => { s with files := if s.files.contains name then s.files else name :: s.files }
  return name

/-- The character for digits after a backslash: decimal, octal or hexadecimal. -/
def numbered? (cs : List Char) : Option (Char × List Char) :=
  let read (base most : Nat) (digits : Char → Bool) (cs : List Char) : Option (Char × List Char) :=
    let own := (cs.take most).takeWhile digits
    let digit (c : Char) : Nat :=
      if c.isDigit then c.toNat - '0'.toNat else c.toLower.toNat - 'a'.toNat + 10
    if own.isEmpty then none
    else
      let n := own.foldl (fun n c => n * base + digit c) 0
      some (Char.ofNat (n % 256), cs.drop own.length)
  match cs with
  | 'd' :: rest => read 10 3 Char.isDigit rest
  | 'o' :: rest => read 8 3 (fun c => '0' ≤ c && c ≤ '7') rest
  | 'x' :: rest => read 16 2 (fun c => c.isDigit || ('a' ≤ c.toLower && c.toLower ≤ 'f')) rest
  | 'c' :: c :: rest => some (Char.ofNat (c.toUpper.toNat ^^^ 0x40), rest)
  | _ => none

/-- The text to which an escaped text leads. -/
def unescaped : Nat → List Char → List Char
  | 0, _ => []
  | _ + 1, [] => []
  | fuel + 1, '\\' :: cs =>
    match numbered? cs with
    | some (c, rest) => c :: unescaped fuel rest
    | none =>
      match cs with
      | [] => []
      | c :: rest => (Text.ReadRegex.controlOf? c).getD c :: unescaped fuel rest
  | fuel + 1, c :: cs => c :: unescaped fuel cs

/-- Takes a text that goes over lines off a script. Lines go on after a backslash. -/
def textLines : List Char → List Char × List Char
  | [] => ([], [])
  | '\n' :: rest => ([], rest)
  | '\\' :: c :: rest =>
    let (own, after) := textLines rest
    ('\\' :: c :: own, after)
  | c :: rest =>
    let (own, after) := textLines rest
    (c :: own, after)

/-- Goes on with the next piece of the script. -/
def nextSource : Read Bool := do
  let s ← MonadState.get
  match s.later with
  | [] => return false
  | source :: later =>
    MonadState.set { s with source, rest := source.text, later }
    return true

/-- Reads the text of a command that adds one. -/
def addedText : Read String := do
  blanks
  match ← peek? with
  | none => refuse "expected \\ after \x60a', \x60c' or \x60i'"
  | some '\\' =>
    let _ ← next?
    let gap ← many fun c => c = ' ' || c = '\t'
    match ← peek? with
    | some '\n' =>
      let _ ← next?
      pure ()
    | none => if !(← nextSource) then return ""
    | some _ => modify fun s => { s with rest := gap ++ s.rest }
  | some _ => pure ()
  let s ← MonadState.get
  let (own, rest) := textLines s.rest
  MonadState.set { s with rest }
  return String.ofList (unescaped (own.length + 1) own) ++ "\n"

/-! ## Replacements -/

/-- Reads a replacement. -/
def pieces : Nat → List Char → List Piece
  | 0, _ => []
  | _ + 1, [] => []
  | fuel + 1, '&' :: rest => .group 0 :: pieces fuel rest
  | fuel + 1, '\\' :: cs =>
    match cs with
    | [] => [.text "\\"]
    | c :: rest =>
      let shift (s : CaseShift) : List Piece := .shift s :: pieces fuel rest
      match c with
      | 'U' => shift .upper
      | 'L' => shift .lower
      | 'E' => shift .stop
      | 'u' => shift .nextUpper
      | 'l' => shift .nextLower
      | _ =>
        if c.isDigit then .group (c.toNat - '0'.toNat) :: pieces fuel rest
        else
          match numbered? cs with
          | some (d, rest) => .text (String.singleton d) :: pieces fuel rest
          | none =>
            .text (String.singleton ((Text.ReadRegex.controlOf? c).getD c)) :: pieces fuel rest
  | fuel + 1, c :: rest => .text (String.singleton c) :: pieces fuel rest

/-- The letters and the number after a replacement. -/
structure Letters where
  ignoresCase : Bool := false
  hasLines : Bool := false
  prints : Bool := false
  all : Bool := false
  which : Option Nat := none
  file : Option String := none

/-- Reads what comes after a replacement. -/
def letters : Nat → Letters → Read Letters
  | 0, l => return l
  | fuel + 1, l => do
    match ← peek? with
    | none | some '\x7d' | some '#' => return l
    | some c =>
      if c.isDigit then
        let first ← next?
        if l.which.isSome then refuse "multiple number options to \x60s' command"
        modify fun s => { s with rest := first.toList ++ s.rest }
        let n ← number
        if n = 0 then refuse "number option to \x60s' command may not be zero"
        letters fuel { l with which := some n }
      else
        let _ ← next?
        match c with
        | 'i' | 'I' => letters fuel { l with ignoresCase := true }
        | 'm' | 'M' => letters fuel { l with hasLines := true }
        | 'p' =>
          if l.prints then refuse "multiple \x60p' options to \x60s' command"
          letters fuel { l with prints := true }
        | 'g' =>
          if l.all then refuse "multiple \x60g' options to \x60s' command"
          letters fuel { l with all := true }
        | 'w' => return { l with file := some (← targetName) }
        | '\n' | ';' => return l
        | ' ' | '\t' => letters fuel l
        | _ => refuse "unknown option to \x60s'"

/-- Reads a replacement of what a pattern matches. -/
def substitution : Read Action := do
  let unfinished {α : Type} : Read α := refuse "unterminated \x60s' command"
  match ← next? with
  | none => unfinished
  | some mark =>
    match ← delimited mark true with
    | none => unfinished
    | some own =>
      match ← delimited mark false with
      | none => unfinished
      | some new =>
        let pieces := pieces (new.length + 1) new
        let l ← letters ((← MonadState.get).rest.length + 1) {}
        let pattern ← pattern own l.ignoresCase l.hasLines
        let highest := (pieces.filterMap fun p =>
          match p with
          | .group n => some n
          | _ => none).max?.getD 0
        if pattern.regex.any (·.groupCount < highest) then
          refuse ("invalid reference \\" ++ toString highest ++ " on \x60s' command's RHS")
        return .substitute {
          pattern, pieces
          which := l.which.getD 1
          all := l.all
          prints := l.prints
          file := l.file }

/-- The characters that an escaped list of characters names. -/
def listed : List Char → List Char
  | [] => []
  | '\\' :: '\\' :: rest => '\\' :: listed rest
  | '\\' :: c :: rest =>
    match Text.ReadRegex.controlOf? c with
    | some d => d :: listed rest
    | none => '\\' :: c :: listed rest
  | c :: rest => c :: listed rest

/-- Reads a replacement of single characters. -/
def transliteration : Read Action := do
  let unfinished {α : Type} : Read α := refuse "unterminated \x60y' command"
  match ← next? with
  | none => unfinished
  | some mark =>
    match ← delimited mark false with
    | none => unfinished
    | some own =>
      match ← delimited mark false with
      | none => unfinished
      | some new =>
        let (own, new) := (listed own, listed new)
        if own.length ≠ new.length then
          refuse "strings for \x60y' command are different lengths"
        commandEnd
        return .transliterate (own.zip new)

/-! ## Commands -/

/-- Reads a command with one number, which can be missing. -/
def optionalNumber : Read (Option Nat) := do
  blanks
  let n ← if ← digitNext then some <$> number else pure none
  commandEnd
  return n

/-- The action of a command that is nothing but a letter. -/
def plainAction? (c : Char) : Option Action :=
  match c with
  | '=' => some .sayNumber
  | 'd' => some .delete
  | 'D' => some .deleteFirst
  | 'F' => some .sayName
  | 'g' => some .get
  | 'G' => some .getMore
  | 'h' => some .hold
  | 'H' => some .holdMore
  | 'n' => some .next
  | 'N' => some .nextMore
  | 'p' => some .print
  | 'P' => some .printFirst
  | 'z' => some .clear
  | 'x' => some .exchange
  | _ => none

/-- Adds a command to the script. -/
def addCommand (selection : Selection) (action : Action) : Read Unit :=
  modify fun s =>
    { s with script := { s.script with commands := s.script.commands.push ⟨selection, action⟩ } }

/-- Closes the innermost block. -/
def closeBlock : Read Unit := do
  let s ← MonadState.get
  match s.blocks with
  | [] => refuse "unexpected \x60\x7d'"
  | (start, _) :: blocks =>
    let commands := s.script.commands.modify start fun c =>
      { c with action := .block s.script.commands.size }
    MonadState.set { s with blocks, script := { s.script with commands } }

/-- Reads a command whose selection and letter have been read. -/
def command (c : Char) (own : Selection) : Read Unit := do
  let onlyOne : Read Unit := do
    if own.last.isSome then refuse "command only uses one address"
  match c with
  | '#' =>
    if own.first.isSome then refuse "comments don't accept any addresses"
    let s ← MonadState.get
    let atStart := s.source.text.length - s.rest.length = 1 && s.source.number ≤ 1 &&
      s.script.commands.isEmpty
    let text ← many (· ≠ '\n')
    if atStart && text = ['n'] then
      modify fun s => { s with script := { s.script with silent := true } }
  | 'v' =>
    let wanted ← label
    if wanted.toList.head?.any fun d => '5' ≤ d then refuse "expected newer version of sed"
    commandEnd
  | '\x7b' =>
    let s ← MonadState.get
    MonadState.set { s with blocks := (s.script.commands.size, s.source) :: s.blocks }
    addCommand own (.block 0)
  | '\x7d' =>
    if (← MonadState.get).blocks.isEmpty then refuse "unexpected \x60\x7d'"
    if own.first.isSome then refuse "\x7d doesn't want any addresses"
    commandEnd
    closeBlock
  | 'a' => addCommand own (.append (← addedText))
  | 'i' => addCommand own (.insert (← addedText))
  | 'c' => addCommand own (.change (← addedText))
  | ':' =>
    if own.first.isSome then refuse ": doesn't want any addresses"
    let name ← label
    if name.isEmpty then refuse "\":\" lacks a label"
    modify fun s =>
      let place := s.script.commands.size
      { s with script := { s.script with labels := s.script.labels ++ [(name, place)] } }
  | 'b' => addCommand own (.branch (← label))
  | 't' => addCommand own (.branchIf (← label))
  | 'T' => addCommand own (.branchUnless (← label))
  | 'q' =>
    onlyOne
    addCommand own (.quit ((← optionalNumber).getD 0))
  | 'Q' =>
    onlyOne
    addCommand own (.quitSilently ((← optionalNumber).getD 0))
  | 'l' => addCommand own (.showLine (← optionalNumber))
  | 'r' => addCommand own (.readFile (← fileName))
  | 'R' => addCommand own (.readLine (← fileName))
  | 'w' => addCommand own (.write (← targetName))
  | 'W' => addCommand own (.writeFirst (← targetName))
  | 's' => addCommand own (← substitution)
  | 'y' => addCommand own (← transliteration)
  | _ =>
    match plainAction? c with
    | none => refuse ("unknown command: \x60" ++ String.singleton c ++ "'")
    | some action =>
      commandEnd
      addCommand own action

/-- Reads commands up to the end of all pieces. -/
def commands : Nat → Read Unit
  | 0 => return
  | fuel + 1 => do
    let _ ← many fun c => c.isWhitespace || c = ';'
    match ← peek? with
    | none => if ← nextSource then commands fuel
    | some _ =>
      let own ← selection
      blanks
      match ← next? with
      | none => refuse "missing command"
      | some c => command c own
      commands fuel

/-- Reads a whole script. -/
def script : Read Unit := do
  let s ← MonadState.get
  commands ((s.rest :: s.later.map (·.text)).foldl (fun n t => n + t.length + 2) 1)
  let s ← MonadState.get
  match s.blocks with
  | (_, source) :: _ => throw (1, place source 0 ++ "unmatched \x60\x7b'")
  | [] =>
    for c in s.script.commands do
      match c.action with
      | .branch name | .branchIf name | .branchUnless name =>
        if !name.isEmpty && (s.script.labels.lookup name).isNone then
          throw (4, "can't find label for jump to \x60" ++ name ++ "'")
      | _ => pure ()

end Read

/-- Reads a script, with the files to which it writes. A script that is refused leads to a status
and a complaint. -/
def Script.read (form : RegexForm) (sources : List Source) :
    Except (Nat × String) (Script × List String) :=
  match sources with
  | [] => .ok ({}, [])
  | source :: later =>
    match Read.script.run { source, rest := source.text, later, form } with
    | .ok (_, s) => .ok (s.script, s.files.reverse)
    | .error fault => .error fault

end ContractBindings.Utility.Edit
