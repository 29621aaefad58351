import ContractBindings.Text.Format
import ContractBindings.Utility.Lines

/-!
# Sorting and comparing

The utilities that put lines in order, drop repeated ones, and find where files differ.
-/

namespace ContractBindings.Utility

open Process

/-! ## Orders -/

/-- How keys are compared. -/
structure SortOrder where
  numeric : Bool := false
  /-- With a fraction and an exponent. -/
  general : Bool := false
  /-- With a unit. -/
  human : Bool := false
  reverse : Bool := false
  ignoresCase : Bool := false
  ignoresBlanks : Bool := false
  /-- Only letters, digits and blanks count. -/
  dictionary : Bool := false
  /-- Only printable characters count. -/
  printable : Bool := false
  /-- Numbers within texts are compared as numbers. -/
  version : Bool := false
  /-- Some way to compare was asked for. -/
  given : Bool := false

/-- The order with one more letter. -/
def SortOrder.add (o : SortOrder) (letter : Char) : SortOrder :=
  let o := { o with given := true }
  match letter with
  | 'n' => { o with numeric := true }
  | 'g' => { o with general := true }
  | 'h' => { o with human := true }
  | 'r' => { o with reverse := true }
  | 'f' => { o with ignoresCase := true }
  | 'b' => { o with ignoresBlanks := true }
  | 'd' => { o with dictionary := true }
  | 'i' => { o with printable := true }
  | 'V' => { o with version := true }
  | _ => o

/-- A key: where it begins and where it ends, as fields and characters in them. -/
structure SortKey where
  first : Nat
  firstChar : Nat := 1
  last : Option (Nat × Nat) := none
  order : SortOrder := {}

/-- The number at the start of a text, as a sign, digits before the point and digits after it. -/
def decimalOf (cs : List Char) : Bool × List Char × List Char :=
  let cs := cs.dropWhile fun c => c = ' ' || c = '\t'
  let (negative, cs) :=
    match cs with
    | '-' :: rest => (true, rest)
    | cs => (false, cs)
  let whole := cs.takeWhile Char.isDigit
  let part :=
    match cs.drop whole.length with
    | '.' :: rest => rest.takeWhile Char.isDigit
    | _ => []
  (negative, whole, part)

/-- The value of a text as a number, over a power of ten. -/
def decimalValue (places : Nat) (cs : List Char) : Int :=
  let (negative, whole, part) := decimalOf cs
  let digits := whole ++ (part ++ List.replicate (places - part.length) '0').take places
  let n : Nat := digits.foldl (fun n c => n * 10 + (c.toNat - '0'.toNat)) 0
  if negative then -(n : Int) else n

/-- Compares two texts as numbers. -/
def compareDecimals (a b : List Char) : Ordering :=
  let places := max (decimalOf a).2.2.length (decimalOf b).2.2.length
  compare (decimalValue places a) (decimalValue places b)

/-- The weight of a unit. -/
def unitWeight (cs : List Char) : Nat :=
  let (_, whole, part) := decimalOf cs
  let cs := cs.dropWhile fun c => c = ' ' || c = '\t' || c = '-'
  let rest := cs.drop (whole.length + if part.isEmpty then 0 else part.length + 1)
  match rest with
  | 'k' :: _ | 'K' :: _ => 1
  | 'M' :: _ => 2
  | 'G' :: _ => 3
  | 'T' :: _ => 4
  | _ => 0

/-- Compares two texts by their characters. -/
def compareTexts : List Char → List Char → Ordering
  | [], [] => .eq
  | [], _ => .lt
  | _, [] => .gt
  | a :: as, b :: bs => if a < b then .lt else if b < a then .gt else compareTexts as bs

/-- Cuts a text into runs of digits and of other characters. -/
def digitRuns : Nat → List Char → List (List Char)
  | 0, _ => []
  | _ + 1, [] => []
  | fuel + 1, c :: cs =>
    let run := (c :: cs).takeWhile fun d => d.isDigit = c.isDigit
    run :: digitRuns fuel ((c :: cs).drop run.length)

/-- Compares runs, those of digits as numbers. -/
def compareRuns : List (List Char) → List (List Char) → Ordering
  | [], [] => .eq
  | [], _ => .lt
  | _, [] => .gt
  | a :: as, b :: bs =>
    let digits := a.head?.any Char.isDigit && b.head?.any Char.isDigit
    let first := if digits then compareDecimals a b else compareTexts a b
    if first = .eq then compareRuns as bs else first

/-- The characters of a key that count. -/
def SortOrder.relevant (o : SortOrder) (cs : List Char) : List Char :=
  let cs := if o.ignoresBlanks then cs.dropWhile fun c => c = ' ' || c = '\t' else cs
  let cs := if o.dictionary then cs.filter fun c => c.isAlphanum || c = ' ' || c = '\t' else cs
  let cs := if o.printable then cs.filter fun c => ' ' ≤ c && c ≤ '~' else cs
  if o.ignoresCase then cs.map Char.toUpper else cs

/-- Compares two keys. -/
def SortOrder.compare (o : SortOrder) (a b : List Char) : Ordering :=
  let a := o.relevant a
  let b := o.relevant b
  let general (cs : List Char) : Option Text.Quantity := (Text.Quantity.read? cs).map (·.1)
  let found :=
    if o.human then
      (Ord.compare (unitWeight a) (unitWeight b)).then (compareDecimals a b)
    else if o.numeric then compareDecimals a b
    else if o.general then
      match general a, general b with
      | some (.finite x), some (.finite y) =>
        let (m, p) := x.magnitude.ratio
        let (n, q) := y.magnitude.ratio
        let signed (negative : Bool) (k : Nat) : Int := if negative then -(k : Int) else k
        Ord.compare (signed x.negative (m * q)) (signed y.negative (n * p))
      | none, some _ => .lt
      | some _, none => .gt
      | _, _ => .eq
    else if o.version then
      compareRuns (digitRuns (a.length + 1) a) (digitRuns (b.length + 1) b)
    else compareTexts a b
  if o.reverse then found.swap else found

/-! ## Keys -/

/-- Where the fields of a line begin and end. Without a separator a field has the blanks before
it. -/
def fieldSpans (separator : Option Char) (line : List Char) : List (Nat × Nat) :=
  match separator with
  | some c =>
    let rec split : Nat → Nat → List Char → List (Nat × Nat)
      | start, i, [] => [(start, i)]
      | start, i, d :: rest =>
        if d = c then (start, i) :: split (i + 1) (i + 1) rest else split start (i + 1) rest
    split 0 0 line
  | none =>
    let rec blanks : Nat → Nat → Bool → List Char → List (Nat × Nat)
      | start, i, _, [] => [(start, i)]
      | start, i, inText, d :: rest =>
        if d = ' ' || d = '\t' then
          if inText then (start, i) :: blanks i (i + 1) false rest
          else blanks start (i + 1) false rest
        else blanks start (i + 1) true rest
    blanks 0 0 false line

/-- The characters of a key in a line. -/
def SortKey.text (k : SortKey) (separator : Option Char) (line : List Char) : List Char :=
  let spans := fieldSpans separator line
  let skip (i : Nat) : Nat :=
    if k.order.ignoresBlanks then
      ((line.drop i).takeWhile fun c => c = ' ' || c = '\t').length
    else 0
  let start :=
    match spans[k.first - 1]? with
    | some (i, _) => min (i + skip i + (k.firstChar - 1)) line.length
    | none => line.length
  let stop :=
    match k.last with
    | none => line.length
    | some (field, char) =>
      match spans[field - 1]? with
      | some (i, j) => if char = 0 then j else min (i + skip i + char) line.length
      | none => line.length
  (line.take stop).drop start

/-- Reads a position in a key: the field, the character in it, and the letters after them. -/
def keyPosition? (cs : List Char) : Option (Nat × Option Nat × List Char) :=
  let digits := cs.takeWhile Char.isDigit
  let rest := cs.drop digits.length
  (natural? (String.ofList digits)).map fun field =>
    match rest with
    | '.' :: after =>
      let inner := after.takeWhile Char.isDigit
      (field, natural? (String.ofList inner), after.drop inner.length)
    | rest => (field, none, rest)

/-- Reads a key. -/
def sortKey (c : Call) (usual : SortOrder) (text : String) : Act SortKey := do
  let parts := text.splitOn ","
  let refuse {α : Type} (what detail s : String) : Act α := do
    c.complain (what ++ ": " ++ detail ++ textQuoted s)
    throw 2
  match keyPosition? ((parts.head?.getD "").toList) with
  | none => refuse "invalid number at field start" "invalid count at start of " text
  | some (0, _, _) => refuse "field number is zero" "invalid field specification " text
  | some (first, char, more) =>
    let last? ←
      match parts[1]? with
      | none => pure none
      | some s =>
        match keyPosition? s.toList with
        | none => refuse "invalid number after ','" "invalid count at start of " s
        | some (field, char, more) => pure (some (field, char.getD 0, more))
    let all := more ++ (last?.map (·.2.2)).getD []
    let order := all.foldl SortOrder.add {}
    return {
      first
      firstChar := char.getD 1
      last := last?.map fun l => (l.1, l.2.1)
      order := if order.given then order else usual }

/-- The parts of a text that end in a zero, without it. -/
def zeroLines (text : String) : List String :=
  let parts := text.splitOn "\x00"
  if parts.getLast? = some "" then parts.dropLast else parts

/-- Sorts lines. -/
def sort : Program := fun c => do
  let a ← understand c
    ([named 'k' "key" .something, named 't' "field-separator" .something,
      named 'o' "output" .something, named 'u' "unique", named 's' "stable", named 'r' "reverse",
      named 'n' "numeric-sort", named 'g' "general-numeric-sort", named 'h' "human-numeric-sort",
      named 'f' "ignore-case", named 'b' "ignore-leading-blanks", named 'd' "dictionary-order",
      named 'i' "ignore-nonprinting", named 'V' "version-sort", named 'c' "check" .nothing,
      named 'm' "merge", named 'z' "zero-terminated", named 'S' "buffer-size" .something,
      named 'T' "temporary-directory" .something, word "parallel" .something] ++ letters "CMR") 2
  let given := a.options.filterMap fun o => if o.1.length = 1 then o.1.toList.head? else none
  let usual :=
    (given.filter (· ∈ ['n', 'g', 'h', 'r', 'f', 'b', 'd', 'i', 'V'])).foldl SortOrder.add {}
  let separator ←
    match a.value? "t" with
    | none => pure none
    | some text =>
      match text.toList with
      | [d] => pure (some d)
      | ['\\', '0'] => pure (some '\x00')
      | [] => do c.complain "empty tab"; throw 2
      | _ => do c.complain ("multi-character tab " ++ textQuoted text); throw 2
  let keys ← (a.values "k").mapM (sortKey c usual)
  let compare (x y : String) : Ordering :=
    if keys.isEmpty then usual.compare x.toList y.toList
    else
      keys.foldl (fun found k =>
        found.then (k.order.compare (k.text separator x.toList) (k.text separator y.toList))) .eq
  let stable := a.has "s" || a.has "u"
  let simple := keys.isEmpty && !usual.given
  let full (x y : String) : Ordering :=
    let found := compare x y
    if found ≠ .eq || stable || simple then found
    else
      let last := compareTexts x.toList y.toList
      if usual.reverse then last.swap else last
  let zeros := a.has "z"
  let mut lines := []
  for path in inputsOf a do
    match ← readInput path with
    | .ok text => lines := lines ++ (if zeros then zeroLines text else plainLines text)
    | .error .isDirectory =>
      c.complain ("read failed: " ++ shellText path ++ ": " ++ Disk.Fault.isDirectory.reason)
      throw 2
    | .error fault =>
      c.complain ("cannot read: " ++ shellText path ++ ": " ++ fault.reason)
      throw 2
  if a.has "c" || a.has "C" then
    let path := (inputsOf a).head?.getD "-"
    let pairs := lines.zip (lines.drop 1) |>.zipIdx
    let wrong := pairs.find? fun ((x, y), _) =>
      full x y = .gt || (a.has "u" && compare x y = .eq)
    match wrong with
    | none => return 0
    | some ((_, y), i) =>
      if !a.has "C" then
        c.complain (path ++ ":" ++ toString (i + 2) ++ ": disorder: " ++ y)
      return 1
  let sorted := lines.mergeSort fun x y => full x y != .gt
  let rec drop : List String → List String
    | x :: y :: rest => if compare x y = .eq then drop (x :: rest) else x :: drop (y :: rest)
    | rest => rest
  termination_by list => list.length
  let sorted := if a.has "u" then drop sorted else sorted
  let text := String.join (sorted.map (· ++ if zeros then "\x00" else "\n"))
  match a.value? "o" with
  | none =>
    Act.say text
    return 0
  | some path =>
    match ← Act.openPath .writing path with
    | .error fault =>
      c.complain ("open failed: " ++ shellText path ++ ": " ++ fault.reason)
      return 2
    | .ok index =>
      let before := (← get).context.streams
      Act.setStream 1 (some index)
      let _ ← Act.write 1 text
      modify fun m => { m with context := { m.context with streams := before } }
      return 0

/-! ## Repeated lines -/

/-- Groups equal lines that follow each other: the first of each group, and their number. -/
def groups (same : String → String → Bool) : List String → List (String × Nat)
  | [] => []
  | line :: rest =>
    match groups same rest with
    | (other, n) :: others =>
      if same line other then (line, n + 1) :: others else (line, 1) :: (other, n) :: others
    | [] => [(line, 1)]

/-- Says lines that are not the same as the one before. -/
def uniq : Program := fun c => do
  let a ← understand c
    [named 'c' "count", named 'd' "repeated", named 'u' "unique", named 'i' "ignore-case",
      named 'f' "skip-fields" .something, named 's' "skip-chars" .something,
      named 'w' "check-chars" .something, named 'D' "all-repeated", named 'z' "zero-terminated"]
  let number (key : String) : Option Nat := (a.value? key).bind natural?
  let rec skipFields : Nat → List Char → List Char
    | 0, cs => cs
    | n + 1, cs =>
      skipFields n ((cs.dropWhile fun d => d = ' ' || d = '\t').dropWhile fun d =>
        d ≠ ' ' && d ≠ '\t')
  let key (line : String) : List Char :=
    let cs := (skipFields ((number "f").getD 0) line.toList).drop ((number "s").getD 0)
    let cs := (number "w").elim cs cs.take
    if a.has "i" then cs.map Char.toLower else cs
  let source := a.operands.head?.getD "-"
  if let some other := a.operands[2]? then extraOperand c other
  match ← readInput source with
  | .error .isDirectory =>
    c.complain ("error reading " ++ shellQuoted source ++ ": " ++ Disk.Fault.isDirectory.reason)
    return 1
  | .error fault =>
    c.complain (inputComplaint source fault)
    return 1
  | .ok text =>
    if let some path := a.operands[1]? then
      match ← Act.openPath .writing path with
      | .ok index => Act.setStream 1 (some index)
      | .error fault =>
        c.complain (inputComplaint path fault)
        throw 1
    for (line, n) in groups (fun x y => key x = key y) (plainLines text) do
      let shown := if a.has "D" then 1 < n else (!a.has "d" || 1 < n) && (!a.has "u" || n = 1)
      if shown then
        for _ in [0:if a.has "D" then n else 1] do
          Act.sayLine ((if a.has "c" then padded 7 (toString n) ++ " " else "") ++ line)
    return 0

/-! ## Comparing -/

/-- What is known while two files are merged. -/
structure Merging where
  /-- Some line is in one of them only. -/
  unpaired : Bool := false
  /-- The files that are known not to be in order. -/
  disordered : List Nat := []

/-- Says which lines two sorted files share. -/
def comm : Program := fun c => do
  let a ← understand c (letters "123" ++ [word "check-order", word "nocheck-order", word "total"])
  match a.operands with
  | [] => missingOperand c
  | [one] => c.misuse 1 ("missing operand after " ++ textQuoted one)
  | _ :: _ :: other :: _ => extraOperand c other
  | [p, q] =>
    let read (path : String) : Act (List String) := do
      match ← readInput path with
      | .ok text => return plainLines text
      | .error fault =>
        c.complain (inputComplaint path fault)
        throw 1
    let xs ← read p
    let ys ← read q
    let gap (n : Nat) : String :=
      String.join ((["1", "2"].take n).map fun k => if a.has k then "" else "\t")
    let say (column : Nat) (line : String) : Act Unit := do
      if !a.has (toString (column + 1)) then Act.sayLine (gap column ++ line)
    -- Order counts from the first line on that is in one file only.
    let check (s : Merging) (file : Nat) (before line : Option String) : Act Merging := do
      let counts := !a.has "nocheck-order" && (s.unpaired || a.has "check-order")
      match before, line with
      | some x, some y =>
        if counts && !s.disordered.contains file && y < x then
          c.complain ("file " ++ toString file ++ " is not in sorted order")
          if a.has "check-order" then throw 1
          return { s with disordered := file :: s.disordered }
        else return s
      | _, _ => return s
    let step (s : Merging) (file : Nat) (before : Option String) (lines : List String) :
        Act Merging := do
      match lines with
      | x :: y :: _ => check s file (some x) (some y)
      | [x] => check s file before (some x)
      | [] => return s
    let rec merge : Nat → Merging → Option String → List String → Option String → List String →
        Act Merging
      | 0, s, _, _, _, _ => return s
      | fuel + 1, s, p, xs, q, ys => do
        match xs, ys with
        | [], [] => return s
        | x :: xs', [] =>
          say 0 x
          let s ← step { s with unpaired := true } 1 p xs
          merge fuel s (some x) xs' q ys
        | [], y :: ys' =>
          say 1 y
          let s ← step { s with unpaired := true } 2 q ys
          merge fuel s p xs (some y) ys'
        | x :: xs', y :: ys' =>
          if x = y then
            say 2 x
            let s ← step s 1 p xs
            let s ← step s 2 q ys
            merge fuel s (some x) xs' (some y) ys'
          else if x < y then
            say 0 x
            let s ← step { s with unpaired := true } 1 p xs
            merge fuel s (some x) xs' q ys
          else
            say 1 y
            let s ← step { s with unpaired := true } 2 q ys
            merge fuel s p xs (some y) ys'
    let s ← merge (xs.length + ys.length + 1) {} none xs none ys
    if !s.disordered.isEmpty then
      c.complain "input is not in sorted order"
      return 1
    return 0

/-- Says where two files begin to differ. -/
def cmp : Program := fun c => do
  let a ← understand c
    ([named 's' "quiet", { letter := some 's', word := some "silent" }, named 'l' "verbose",
      named 'b' "print-bytes"] ++ valued "in") 2
  match a.operands with
  | [] => do
    c.complain "missing operand after 'cmp'"
    Act.giveUp 2 (c.name ++ ": Try '" ++ c.name ++ " --help' for more information.")
  | p :: others =>
    let q := others.head?.getD "-"
    let read (path : String) : Act (List Char) := do
      match ← readInput path with
      | .ok text => return text.toList
      | .error fault =>
        if !a.has "s" then c.complain (path ++ ": " ++ fault.reason)
        throw 2
    let xs ← read p
    let ys ← read q
    let pairs := xs.zip ys
    let shared := (pairs.takeWhile fun (x, y) => x = y).length
    if xs = ys then return 0
    if a.has "s" then return 1
    if a.has "l" then
      let octal (d : Char) : String := padded 3 (String.ofList (Nat.toDigits 8 d.toNat))
      let width := (toString (min xs.length ys.length)).length
      for ((x, y), i) in pairs.zipIdx do
        if x ≠ y then
          Act.sayLine (padded width (toString (i + 1)) ++ " " ++ octal x ++ " " ++ octal y)
    if shared = pairs.length then
      let (path, size, short) :=
        if xs.length < ys.length then (p, xs.length, xs) else (q, ys.length, ys)
      let lines := short.countP (· = '\n')
      if size = 0 then c.complain ("EOF on " ++ path ++ " which is empty")
      else if a.has "l" then c.complain ("EOF on " ++ path ++ " after byte " ++ toString size)
      else
        let place :=
          if short.getLast? = some '\n' then ", line " ++ toString lines
          else ", in line " ++ toString (lines + 1)
        c.complain ("EOF on " ++ path ++ " after byte " ++ toString size ++ place)
    else if !a.has "l" then
      let line := (xs.take shared).countP (· = '\n') + 1
      Act.sayLine (p ++ " " ++ q ++ " differ: char " ++ toString (shared + 1) ++ ", line " ++
        toString line)
    return 1

end ContractBindings.Utility
