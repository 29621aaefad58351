import ContractBindings.Utility.Lines

/-!
# Reading

The utilities that say what files hold: all of it, its start or its end, backwards, with numbers, or
counted.
-/

namespace ContractBindings.Utility

open Process

/-! ## Whole files -/

/-- How `cat` shows what it reads. -/
structure CatManner where
  numbers : Bool
  /-- Only lines that are not empty get numbers. -/
  skipsEmpty : Bool
  squeezes : Bool
  ends : Bool
  tabs : Bool
  controls : Bool

/-- A character as it is shown in a visible way. -/
def visible (c : Char) : List Char :=
  let low (n : Nat) : List Char :=
    if n < 32 then ['^', Char.ofNat (n + 64)]
    else if n = 127 then ['^', '?']
    else [Char.ofNat n]
  if c = '\n' || c = '\t' then [c]
  else if c.toNat < 128 then low c.toNat
  else 'M' :: '-' :: low (c.toNat - 128)

/-- A line as `cat` shows it. -/
def CatManner.line (m : CatManner) (line : String) : String :=
  let cs := (chomp line).toList.flatMap fun c =>
    if c = '\t' && m.tabs then ['^', 'I'] else if m.controls then visible c else [c]
  String.ofList cs ++ if line.endsWith "\n" then (if m.ends then "$\n" else "\n") else ""

/-- Says lines; the state is the number of the last line, whether the last line was empty, and
whether a line is open. -/
def CatManner.sayLines (m : CatManner) (state : Nat × Bool × Bool) :
    List String → Act (Nat × Bool × Bool)
  | [] => return state
  | line :: rest => do
    let (number, wasEmpty, isOpen) := state
    let isEmpty := line = "\n" && !isOpen
    if isEmpty && wasEmpty && m.squeezes then m.sayLines state rest
    else
      let counts := !isOpen && (if m.skipsEmpty then !isEmpty else m.numbers)
      let number := if counts then number + 1 else number
      if counts then Act.say (padded 6 (toString number) ++ "\t")
      Act.say (m.line line)
      m.sayLines (number, isEmpty, !line.endsWith "\n") rest

/-- Says what files hold, one after the other. -/
def cat : Program := fun c => do
  let a ← understand c
    ([named 'n' "number", named 'b' "number-nonblank", named 's' "squeeze-blank",
      named 'E' "show-ends", named 'T' "show-tabs", named 'v' "show-nonprinting",
      named 'A' "show-all"] ++ letters "etu")
  let manner : CatManner := {
    numbers := a.has "n"
    skipsEmpty := a.has "b"
    squeezes := a.has "s"
    ends := a.has "E" || a.has "A" || a.has "e"
    tabs := a.has "T" || a.has "A" || a.has "t"
    controls := a.has "v" || a.has "A" || a.has "e" || a.has "t" }
  let plain := a.options.all (·.1 = "u")
  let outputs := (← Act.openFile? 1).map fun f => f.2.channel
  let mut status := 0
  let mut state := (0, false, false)
  for path in inputsOf a do
    let input ← if path = "-" then pure (.ok 0) else Act.openPath .reading path
    match input with
    | .error fault =>
      c.complain (inputComplaint path fault)
      status := 1
    | .ok index =>
      let own ←
        if path = "-" then pure ((← Act.openFile? 0).map (·.2.channel))
        else pure (((← get).world.opened[index]?).map (·.channel))
      let same :=
        match own, outputs with
        | some (.file x), some (.file y) => x == y
        | _, _ => false
      match ← readInput path with
      | .error fault =>
        c.complain (inputComplaint path fault)
        status := 1
      | .ok text =>
        if same && !text.isEmpty then
          c.complain (shellText path ++ ": input file is output file")
          status := 1
        else if plain then Act.sayNow text
        else
          state ← manner.sayLines state (linesOf text)
          Act.sendHeld
  return status

/-! ## Starts and ends -/

/-- The number of lines or bytes that an option asks for, and whether it is counted otherwise. -/
structure Extent where
  bytes : Bool := false
  count : Nat := 10
  /-- All but so many at the end, or all from so many on. -/
  inverse : Bool := false

/-- Puts a number after a dash into words: the old way to say how many lines. -/
def spellOut (plus : Bool) (args : List String) : List String :=
  match args with
  | arg :: rest =>
    match arg.toList with
    | '-' :: d :: cs =>
      if d.isDigit then
        let digits := (d :: cs).takeWhile Char.isDigit
        let others := (d :: cs).drop digits.length
        let option := if others.contains 'c' then "-c" else "-n"
        option :: String.ofList digits ::
          (if others.contains 'q' then ["-q"] else []) ++
          (if others.contains 'v' then ["-v"] else []) ++ rest
      else args
    | '+' :: d :: cs =>
      if plus && d.isDigit then
        let digits := (d :: cs).takeWhile Char.isDigit
        let others := (d :: cs).drop digits.length
        (if others.contains 'c' then "-c" else "-n") :: ("+" ++ String.ofList digits) :: rest
      else args
    | _ => args
  | [] => []

/-- The extent that options ask for. -/
def extentOf (c : Call) (a : Arguments) (sign : Char) : Act Extent := do
  match a.options.reverse.find? fun o => o.1 = "n" || o.1 = "c" with
  | none => return {}
  | some (key, text) =>
    let bytes := key = "c"
    let cs := text.toList
    let inverse := cs.head? = some sign
    let digits := if cs.head? ∈ [some '-', some '+'] then cs.tail else cs
    match amount? (String.ofList digits) with
    | some count => return { bytes, count, inverse }
    | none =>
      c.complain ("invalid number of " ++ (if bytes then "bytes" else "lines") ++ ": " ++
        textQuoted (String.ofList (if inverse && sign = '-' then digits else cs)))
      throw 1

/-- The start of a text. -/
def Extent.start (e : Extent) (text : String) : String :=
  if e.bytes then
    let n := if e.inverse then text.length - e.count else e.count
    String.ofList (text.toList.take n)
  else
    let lines := linesOf text
    String.join (lines.take (if e.inverse then lines.length - e.count else e.count))

/-- The end of a text. -/
def Extent.last (e : Extent) (text : String) : String :=
  if e.bytes then
    let n := if e.inverse then e.count - 1 else text.length - e.count
    String.ofList (text.toList.drop n)
  else
    let lines := linesOf text
    String.join (lines.drop (if e.inverse then e.count - 1 else lines.length - e.count))

/-- Says a part of each input, under its name if there are several. -/
def sayParts (c : Call) (a : Arguments) (part : String → String) : Act Nat := do
  let paths := inputsOf a
  let headed :=
    match a.last? ["q", "v"] with
    | some "q" => false
    | some _ => true
    | none => 1 < paths.length
  let mut status := 0
  let mut first := true
  for path in paths do
    let name := if path = "-" then "standard input" else path
    let head : Act Unit := do
      if headed then
        Act.say ((if first then "" else "\n") ++ "==> " ++ name ++ " <==\n")
    let opened ← if path = "-" then pure (.ok 0) else Act.openPath .reading path
    match opened with
    | .error fault =>
      c.complain ("cannot open " ++ shellQuoted path ++ " for reading: " ++ fault.reason)
      status := 1
    | .ok _ =>
      head
      first := false
      match ← readInput path with
      | .error fault =>
        c.complain ("error reading " ++ shellQuoted name ++ ": " ++ fault.reason)
        status := 1
      | .ok text =>
        let found := part text
        Act.say found
        -- What was not needed of a file can still be read.
        if path = "-" then
          if let some (index, f) := ← Act.openFile? 0 then
            if f.channel matches .file _ then
              if text.startsWith found then
                Act.setOpenFile index { f with offset := f.offset - (text.length - found.length) }
  return status

/-- The options of `head` and `tail`. -/
def partSwitches : List Switch :=
  [named 'n' "lines" .something, named 'c' "bytes" .something, named 'q' "quiet",
    named 'v' "verbose", { letter := some 'q', word := some "silent" }, named 'z' "zero-terminated"]

/-- Says the starts of files. -/
def head : Program := fun c => do
  let a ← understand { c with args := spellOut false c.args } partSwitches
  let e ← extentOf c a '-'
  sayParts c a e.start

/-- Says the ends of files. -/
def tail : Program := fun c => do
  let a ← understand { c with args := spellOut true c.args }
    (partSwitches ++ [named 'f' "follow" .perhaps] ++ letters "F" ++ valued "s")
  let e ← extentOf c a '+'
  sayParts c a e.last

/-! ## Backwards -/

/-- Says lines from the last to the first. -/
def tac : Program := fun c => do
  let a ← understand c
    [named 'b' "before", named 'r' "regex", named 's' "separator" .something]
  forInputs c (inputsOf a)
    (fun path fault =>
      if fault = .isDirectory then shellText path ++ ": read error: " ++ fault.reason
      else "failed to open " ++ shellQuoted path ++ " for reading: " ++ fault.reason)
    fun _ text => do
      Act.say (String.join (linesOf text).reverse)
      return 0

/-- Says each line from its end to its start. -/
def rev : Program := fun c => do
  let a ← understand c []
  forInputs c (inputsOf a) (fun path fault => "cannot open " ++ path ++ ": " ++ fault.reason)
    fun _ text => do
      for line in linesOf text do
        let turned := String.ofList (chomp line).toList.reverse
        Act.say (turned ++ if line.endsWith "\n" then "\n" else "")
      return 0

/-! ## Numbers -/

/-- Says lines with numbers. -/
def nl : Program := fun c => do
  let a ← understand c
    (valued "bdfhilnsvw" ++ letters "p" ++ [word "body-numbering" .something])
  let all := a.value? "b" = some "a" || a.value? "body-numbering" = some "a"
  let none' := a.value? "b" = some "n"
  let width := ((a.value? "w").bind natural?).getD 6
  let gap := (a.value? "s").getD "\t"
  let start := ((a.value? "v").bind natural?).getD 1
  let step := ((a.value? "i").bind natural?).getD 1
  let mut number := start
  let mut status := 0
  for path in inputsOf a do
    match ← readInput path with
    | .error fault =>
      c.complain (inputComplaint path fault)
      status := 1
    | .ok text =>
      for line in plainLines text do
        if !none' && (all || !line.isEmpty) then
          let digits := toString number
          let shown :=
            match a.value? "n" with
            | some "ln" => digits ++ String.ofList (List.replicate (width - digits.length) ' ')
            | some "rz" => String.ofList (List.replicate (width - digits.length) '0') ++ digits
            | _ => padded width digits
          Act.sayLine (shown ++ gap ++ line)
          number := number + step
        else Act.sayLine (padded (width + gap.length) "" ++ line)
  return status

/-! ## Counting -/

/-- What is counted of a text. -/
structure Counts where
  lines : Nat := 0
  words : Nat := 0
  bytes : Nat := 0
  longest : Nat := 0

/-- A blank between words. -/
def isBlankChar (c : Char) : Bool := c = ' ' || ('\t' ≤ c && c ≤ '\r')

/-- Counts a text. -/
def Counts.of (text : String) : Counts :=
  let (words, _) := text.toList.foldl (fun (n, inWord) c =>
    if isBlankChar c then (n, false) else if inWord then (n, true) else (n + 1, true)) (0, false)
  let width (line : String) : Nat :=
    (chomp line).toList.foldl (fun n c =>
      if c = '\t' then n + 8 - n % 8 else if ' ' ≤ c && c ≤ '~' then n + 1 else n) 0
  { lines := text.toList.countP (· = '\n')
    words
    bytes := text.length
    longest := ((linesOf text).map width).foldl max 0 }

/-- Counts lines, words and bytes. -/
def wc : Program := fun c => do
  let a ← understand c
    [named 'l' "lines", named 'w' "words", named 'c' "bytes", named 'm' "chars",
      named 'L' "max-line-length", word "files0-from" .something, word "total" .something]
  let any := ["l", "w", "c", "m", "L"].any a.has
  let shown (n : Counts) : List Nat :=
    (if !any || a.has "l" then [n.lines] else []) ++
    (if !any || a.has "w" then [n.words] else []) ++
    (if a.has "m" then [n.bytes] else []) ++
    (if !any || a.has "c" then [n.bytes] else []) ++
    (if a.has "L" then [n.longest] else [])
  let paths := inputsOf a
  let single := paths.length = 1 && (shown {}).length = 1
  -- The width comes from the sizes of the files.
  let mut total := 0
  let mut least := 1
  for path in paths do
    if path = "-" then
      match ← Act.openFile? 0 with
      | some (_, { channel := .file identity, .. }) =>
        total := total + ((← get).world.fileBytes identity).size
      | _ => least := 7
    else
      match ← Act.look path with
      | .ok (_, .file bytes _) => total := total + bytes.size
      | .ok _ => least := 7
      | .error _ => pure ()
  let width := if single then 1 else max least (toString total).length
  let say (n : Counts) (name : String) : Act Unit :=
    Act.sayLine (String.intercalate " " ((shown n).map fun x => padded width (toString x)) ++
      if name.isEmpty then "" else " " ++ name)
  let mut status := 0
  let mut sum : Counts := {}
  for path in paths do
    let name := if path = "-" && a.operands.isEmpty then "" else path
    match ← readInput path with
    | .error .isDirectory =>
      c.complain (inputComplaint path .isDirectory)
      say {} name
      status := 1
    | .error fault =>
      c.complain (inputComplaint path fault)
      status := 1
    | .ok text =>
      let n := Counts.of text
      say n (if (name.contains '\n') then shellText name else name)
      sum := {
        lines := sum.lines + n.lines
        words := sum.words + n.words
        bytes := sum.bytes + n.bytes
        longest := max sum.longest n.longest }
  if 1 < paths.length then say sum "total"
  return status

/-! ## Twice -/

/-- Says the input and writes it to files. -/
def tee : Program := fun c => do
  let a ← understand c
    ([named 'a' "append", named 'i' "ignore-interrupts", word "output-error" .perhaps] ++
      letters "p")
  let mode : OpenMode := if a.has "a" then .appending else .writing
  let mut opened := []
  let mut status := 0
  for path in a.operands do
    match ← Act.openPath mode path with
    | .ok index => opened := index :: opened
    | .error fault =>
      c.complain (inputComplaint path fault)
      status := 1
  match ← Act.readAll 0 with
  | .error _ => return 1
  | .ok text =>
    Act.sayNow text
    for index in opened.reverse do
      let before := (← get).context.streams
      Act.setStream 1 (some index)
      let _ ← Act.write 1 text
      modify fun m => { m with context := { m.context with streams := before } }
    return status

end ContractBindings.Utility
