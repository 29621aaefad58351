import ContractBindings.Text.Pattern
import ContractBindings.Text.Escape
import ContractBindings.Utility.Lines

/-!
# Cutting and pasting

The utilities that take parts of lines, put lines beside each other, break them, and exchange
characters.
-/

namespace ContractBindings.Utility

open Process

/-! ## Columns -/

/-- Puts lines beside each other, with delimiters between them, which take turns. -/
def pasteLine (delimiters : List String) : Nat → List String → String
  | _, [] => ""
  | _, [x] => x
  | i, x :: rest =>
    x ++ (delimiters[i % delimiters.length]?).getD "" ++ pasteLine delimiters (i + 1) rest

/-- The first lines of files, as long as one of them has a line. -/
def pasteRows (delimiters : List String) : Nat → List (List String) → List String
  | 0, _ => []
  | fuel + 1, files =>
    if files.all (·.isEmpty) then []
    else
      pasteLine delimiters 0 (files.map fun f => f.head?.getD "") ::
        pasteRows delimiters fuel (files.map List.tail)

/-- Delimiters, with escapes. -/
def delimitersOf (text : String) : List String :=
  let rec read : List Char → List String
    | '\\' :: 'n' :: rest => "\n" :: read rest
    | '\\' :: 't' :: rest => "\t" :: read rest
    | '\\' :: '0' :: rest => "" :: read rest
    | '\\' :: c :: rest => String.singleton c :: read rest
    | c :: rest => String.singleton c :: read rest
    | [] => []
  match read text.toList with
  | [] => [""]
  | found => found

/-- Gives each of several dashes its share of the lines of the input. -/
def dealLines (lines : List String) (count : Nat) (index : Nat) : List String :=
  (lines.zipIdx.filter fun l => l.2 % count = index).map (·.1)

/-- Puts lines of files beside each other. -/
def paste : Program := fun c => do
  let a ← understand c
    [named 'd' "delimiters" .something, named 's' "serial", named 'z' "zero-terminated"]
  let delimiters := delimitersOf ((a.value? "d").getD "\t")
  let paths := inputsOf a
  let mut files := []
  let mut status := 0
  let dashes := paths.countP (· = "-")
  let input ←
    if dashes = 0 then pure []
    else
      match ← Act.readAll 0 with
      | .ok text => pure (plainLines text)
      | .error _ => pure []
  let mut seen := 0
  for path in paths do
    if path = "-" then
      let lines :=
        if a.has "s" then (if seen = 0 then input else []) else dealLines input dashes seen
      files := files ++ [lines]
      seen := seen + 1
    else
      match ← Act.readFile path with
      | .ok text => files := files ++ [plainLines text]
      | .error fault =>
        c.complain (inputComplaint path fault)
        status := 1
        if !a.has "s" then throw 1
  if a.has "s" then
    for lines in files do Act.sayLine (pasteLine delimiters 0 lines)
  else
    let most := (files.map List.length).foldl max 0
    for row in pasteRows delimiters (most + 1) files do Act.sayLine row
  return status

/-- A list of positions: from and to, where none is the end of the line. -/
abbrev Positions := List (Nat × Option Nat)

/-- A position is in a list. -/
def isAmong (list : Positions) (n : Nat) : Bool :=
  list.any fun (first, last) => first ≤ n && last.all (n ≤ ·)

/-- Why a list of positions is none. -/
inductive PositionFault where
  | zero
  | decreasing
  | noEnds
  | noNumber (text : String)

/-- Reads a list of positions. -/
def positions? (text : String) : Except PositionFault Positions :=
  (text.splitOn ",").mapM fun part =>
    let position (s : String) : Except PositionFault Nat :=
      match natural? s with
      | some 0 => .error .zero
      | some n => .ok n
      | none => .error (.noNumber s)
    match part.splitOn "-" with
    | [one] =>
      match position one with
      | .ok n => .ok (n, some n)
      | .error fault => .error fault
    | ["", ""] => .error .noEnds
    | ["", last] =>
      match position last with
      | .ok n => .ok (1, some n)
      | .error fault => .error fault
    | [first, ""] =>
      match position first with
      | .ok n => .ok (n, none)
      | .error fault => .error fault
    | [first, last] =>
      match position first, position last with
      | .ok m, .ok n => if n < m then .error .decreasing else .ok (m, some n)
      | .error fault, _ => .error fault
      | _, .error fault => .error fault
    | _ => .error (.noNumber part)

/-- Says parts of lines. -/
def cut : Program := fun c => do
  let a ← understand c
    [named 'b' "bytes" .something, named 'c' "characters" .something,
      named 'd' "delimiter" .something,
      named 'f' "fields" .something, { letter := some 'n' }, named 's' "only-delimited",
      word "complement", word "output-delimiter" .something, named 'z' "zero-terminated"]
  let lists := a.options.filter fun o => o.1 ∈ ["b", "c", "f"]
  match lists with
  | [] => c.misuse 1 "you must specify a list of bytes, characters, or fields"
  | _ :: _ :: _ => c.misuse 1 "only one list may be specified"
  | [(key, text)] =>
    let fields := key = "f"
    match positions? text with
    | .error .zero =>
      c.misuse 1 (if fields then "fields are numbered from 1"
        else "byte/character positions are numbered from 1")
    | .error .decreasing => c.misuse 1 "invalid decreasing range"
    | .error .noEnds => c.misuse 1 "invalid range with no endpoint: -"
    | .error (.noNumber s) =>
      c.misuse 1 ((if fields then "invalid field value " else "invalid byte/character position ") ++
        textQuoted s)
    | .ok list =>
      let delimiter := (a.value? "d").getD "\t"
      if 1 < delimiter.length then c.misuse 1 "the delimiter must be a single character"
      if !fields && a.has "d" then
        c.misuse 1 "an input delimiter may be specified only when operating on fields"
      let wanted (n : Nat) : Bool := isAmong list n != a.has "complement"
      let choose (parts : List String) : List String :=
        (parts.zipIdx.filter fun p => wanted (p.2 + 1)).map (·.1)
      let joint := (a.value? "output-delimiter").getD (if fields then delimiter else "")
      forInputs c (inputsOf a) inputComplaint fun _ text => do
        for line in plainLines text do
          if fields then
            let parts := line.splitOn delimiter
            if parts.length = 1 then
              if !a.has "s" then Act.sayLine line
            else Act.sayLine (String.intercalate joint (choose parts))
          else Act.sayLine (String.join (choose (line.toList.map String.singleton)))
        return 0

/-! ## Widths -/

/-- Breaks a line after so many columns, or after the last blank before that. -/
def foldLine (width : Nat) (atBlanks : Bool) : Nat → List Char → List (List Char)
  | 0, cs => [cs]
  | fuel + 1, cs =>
    if cs.length ≤ width then [cs]
    else
      let part := cs.take width
      let kept := part.reverse.dropWhile (· ≠ ' ')
      let part := if atBlanks && !kept.isEmpty then kept.reverse else part
      part :: foldLine width atBlanks fuel (cs.drop part.length)

/-- Breaks long lines. -/
def fold : Program := fun c => do
  let a ← understand { c with args := oldWidth c.args }
    [named 'w' "width" .something, named 's' "spaces", named 'b' "bytes"]
  let text := (a.value? "w").getD "80"
  match natural? text with
  | none | some 0 =>
    c.complain ("invalid number of columns: " ++ textQuoted text)
    return 1
  | some width =>
    forInputs c (inputsOf a) inputComplaint fun _ text => do
      for line in linesOf text do
        let cs := (chomp line).toList
        let parts := foldLine width (a.has "s") (cs.length + 1) cs
        Act.say (String.intercalate "\n" (parts.map String.ofList) ++
          if line.endsWith "\n" then "\n" else "")
      return 0
where
  /-- A number after a dash is a width. -/
  oldWidth (args : List String) : List String :=
    args.map fun arg =>
      match arg.toList with
      | '-' :: d :: cs => if d.isDigit then "-w" ++ String.ofList (d :: cs) else arg
      | _ => arg

/-- Puts blanks in the place of tabs. -/
def expand : Program := fun c => do
  let a ← understand c [named 't' "tabs" .something, named 'i' "initial"]
  let width := ((a.value? "t").bind natural?).getD 8
  forInputs c (inputsOf a) inputComplaint fun _ text => do
    for line in linesOf text do
      let (cs, _) := line.toList.foldl (fun (cs, n) d =>
        if d = '\t' && width ≠ 0 then
          let gap := width - n % width
          (List.replicate gap ' ' ++ cs, n + gap)
        else (d :: cs, n + 1)) (([] : List Char), 0)
      Act.say (String.ofList cs.reverse)
    return 0

/-! ## Characters -/

/-- A part of a set of characters. -/
inductive SetPart where
  | chars (list : List Char)
  | caseClass (upper : Bool)
  /-- A character over and over: so often, or as often as needed. -/
  | repeated (c : Char) (count : Nat)

/-- Why a text is no set of characters. -/
inductive SetFault where
  | reversed (text : String)
  | noClass (name : String)

/-- Reads a character of a set, which may be escaped. -/
def setChar : List Char → Option (Char × List Char)
  | '\\' :: c :: rest => some (Text.escape (c :: rest)) |>.map fun (d, after) =>
    if d = '\\' && c ≠ '\\' then (c, rest) else (d, after)
  | c :: rest => some (c, rest)
  | [] => none

/-- All octets. -/
def allOctets : List Char := (List.range 256).map Char.ofNat

/-- Reads a set of characters. -/
def setParts : Nat → List Char → Except SetFault (List SetPart)
  | 0, _ => .ok []
  | fuel + 1, cs =>
    let named? : Option (List Char × List Char) :=
      match cs with
      | '[' :: ':' :: rest =>
        let name := rest.takeWhile (· ≠ ':')
        match rest.drop name.length with
        | ':' :: ']' :: after => some (name, after)
        | _ => none
      | _ => none
    let repeated? : Option (Char × Nat × List Char) :=
      match cs with
      | '[' :: rest =>
        match setChar rest with
        | some (d, '*' :: after) =>
          let digits := after.takeWhile Char.isDigit
          match after.drop digits.length with
          | ']' :: after => some (d, ((String.ofList digits).toNat?).getD 0, after)
          | _ => none
        | _ => none
      | _ => none
    match cs, named?, repeated? with
    | [], _, _ => .ok []
    | _, some (name, after), _ =>
      match String.ofList name, Text.Pattern.class? name with
      | "lower", _ => (setParts fuel after).map (.caseClass false :: ·)
      | "upper", _ => (setParts fuel after).map (.caseClass true :: ·)
      | _, some holds => (setParts fuel after).map (.chars (allOctets.filter holds) :: ·)
      | text, none => .error (.noClass text)
    | _, none, some (d, n, after) => (setParts fuel after).map (.repeated d n :: ·)
    | '[' :: '=' :: d :: '=' :: ']' :: after, none, none =>
      (setParts fuel after).map (.chars [d] :: ·)
    | cs, none, none =>
      match setChar cs with
      | none => .ok []
      | some (first, '-' :: rest) =>
        match setChar rest with
        | some (last, after) =>
          if last < first then
            .error (.reversed (String.ofList (cs.take (cs.length - after.length))))
          else
            let list := (List.range (last.toNat - first.toNat + 1)).map fun n =>
              Char.ofNat (first.toNat + n)
            (setParts fuel after).map (.chars list :: ·)
        | none => (setParts fuel ['-']).map (.chars [first] :: ·)
      | some (first, after) => (setParts fuel after).map (.chars [first] :: ·)

/-- The characters of a set, of which there are as many as `size` if something is repeated as often
as needed. -/
def setChars (size : Nat) (parts : List SetPart) : List Char :=
  let fixed := (parts.map fun p =>
    match p with
    | .chars list => list.length
    | .caseClass _ => 26
    | .repeated _ n => n).foldl (· + ·) 0
  parts.flatMap fun p =>
    match p with
    | .chars list => list
    | .caseClass upper =>
      allOctets.filter (if upper then Char.isUpper else Char.isLower)
    | .repeated d 0 => List.replicate (size - fixed) d
    | .repeated d n => List.replicate n d

/-- Drops a character after itself, if it is of a kind. -/
def squeeze (kind : Char → Bool) : List Char → List Char
  | [] => []
  | [d] => [d]
  | d :: e :: rest =>
    if d = e && kind d then squeeze kind (e :: rest) else d :: squeeze kind (e :: rest)

/-- Exchanges, removes or squeezes characters. -/
def tr : Program := fun c => do
  let a ← understand c
    ([named 'c' "complement", named 'd' "delete", named 's' "squeeze-repeats",
      named 't' "truncate-set1"] ++ letters "C") 1 false
  let complement := a.has "c" || a.has "C"
  let deletes := a.has "d"
  let squeezes := a.has "s"
  let needed := if deletes != squeezes then 1 else 2
  let complain {α : Type} (text more : String) : Act α := do
    c.complain text
    Act.complain more
    Act.giveUp 1 ("Try '" ++ c.name ++ " --help' for more information.")
  match a.operands with
  | [] => missingOperand c
  | [one] =>
    if needed = 2 then
      complain ("missing operand after " ++ textQuoted one)
        (if squeezes then "Two strings must be given when both deleting and squeezing repeats."
          else "Two strings must be given when translating.")
  | [_, two] =>
    if deletes && !squeezes then
      complain ("extra operand " ++ textQuoted two)
        "Only one string may be given when deleting without squeezing repeats."
  | _ :: _ :: three :: _ => extraOperand c three
  let read (text : String) : Act (List SetPart) := do
    match setParts (text.length + 1) text.toList with
    | .ok parts =>
      if text.toList.reverse.takeWhile (· = '\\') |>.length |> (· % 2 = 1) then
        c.complain "warning: an unescaped backslash at end of string is not portable"
      return parts
    | .error (.reversed s) =>
      c.complain
        ("range-endpoints of " ++ textQuoted s ++ " are in reverse collating sequence order")
      throw 1
    | .error (.noClass s) =>
      c.complain ("invalid character class " ++ textQuoted s)
      throw 1
  let first := setChars 0 (← read (a.operands.head?.getD ""))
  let first := if complement then allOctets.filter (!first.contains ·) else first
  let second? ← (a.operands[1]?).mapM read
  let translates := second?.isSome && !deletes
  let second := setChars first.length (second?.getD [])
  if translates && second.isEmpty && !a.has "t" then
    c.complain "when not truncating set1, string2 must be non-empty"
    throw 1
  match ← Act.readAll 0 with
  | .error fault =>
    c.complain ("read error: " ++ fault.reason)
    return 1
  | .ok text =>
    let cs := text.toList
    let cs := if deletes then cs.filter (!first.contains ·) else cs
    let pairs : Array (Option Char) :=
      if translates then
        let first := if a.has "t" then first.take second.length else first
        let last := second.getLast?.getD ' '
        first.zipIdx.foldl (fun table (d, i) =>
          table.setIfInBounds d.toNat (some (second[i]?.getD last))) (Array.replicate 256 none)
      else #[]
    let cs := cs.map fun d => ((pairs[d.toNat]?).getD none).getD d
    let squeezed := if translates || deletes then second else first
    let cs := if squeezes then squeeze (squeezed.contains ·) cs else cs
    Act.say (String.ofList cs)
    return 0

end ContractBindings.Utility
