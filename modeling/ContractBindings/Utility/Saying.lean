import ContractBindings.Shell.Arithmetic
import ContractBindings.Text.Escape
import ContractBindings.Text.Format
import ContractBindings.Utility.Lines

/-!
# Saying

The utilities that say their arguments, or numbers: `echo`, `printf`, `yes` and `seq`, and those
that say nothing at all.
-/

namespace ContractBindings.Utility

open Process
open Text (Format Quantity)

/-! ## Nothing -/

/-- Succeeds. -/
def succeed : Program := fun _ => return 0

/-- Fails. -/
def fail : Program := fun _ => return 1

/-- The thousandths of a second in a time with a unit. -/
def moments? (text : String) : Option Nat :=
  match Quantity.read? text.toList with
  | some (.finite x, _, rest) =>
    let (num, den) := x.magnitude.ratio
    let unit? : Option Nat :=
      match rest with
      | [] | ['s'] => some 1000
      | ['m'] => some 60000
      | ['h'] => some 3600000
      | ['d'] => some 86400000
      | _ => none
    if x.negative && num ≠ 0 then none else unit?.map fun unit => num * unit / den
  | some (.infinite false, _, []) => some 0
  | _ => none

/-- Lets time go by. -/
def sleep : Program := fun c => do
  let a ← understand c []
  if a.operands.isEmpty then missingOperand c
  let mut bad := false
  for text in a.operands do
    match moments? text with
    | some n => Act.pass n
    | none =>
      c.complain ("invalid time interval " ++ textQuoted text)
      bad := true
  if bad then Act.giveUp 1 ("Try '" ++ c.name ++ " --help' for more information.")
  return 0

/-! ## Arguments -/

/-- A character by the digits of its number, of which at most so many count. -/
def byDigits (base most : Nat) (cs : List Char) : Option (Char × List Char) :=
  let digit? (c : Char) : Bool :=
    (c.isDigit && c.toNat - '0'.toNat < base) || (base = 16 && Quantity.isDigit true c)
  let own := (cs.take most).takeWhile digit?
  if own.isEmpty then none
  else
    let n := own.foldl (fun n c => n * base + Quantity.digit c) 0
    some (Char.ofNat (n % 256), cs.drop own.length)

/-- The text of an escape after its backslash, and what is left; nothing if the escape ends all. In
an argument an octal number begins with a zero. -/
def sayEscape (inArgument : Bool) (cs : List Char) : Option (List Char × List Char) :=
  match cs with
  | [] => some (['\\'], [])
  | 'c' :: _ => none
  | 'x' :: rest =>
    match byDigits 16 2 rest with
    | some (c, rest) => some ([c], rest)
    | none => some (['\\', 'x'], rest)
  | '"' :: rest => some (if inArgument then ['\\', '"'] else ['"'], rest)
  | c :: rest =>
    if Text.isOctal c && (!inArgument || c = '0') then
      match byDigits 8 3 (if inArgument then rest else cs) with
      | some (d, rest) => some ([d], rest)
      | none => some (['\x00'], rest)
    else
      match Text.control? c with
      | some d => some ([d], rest)
      | none => some (['\\', c], rest)

/-- A text without its escapes, and whether one of them has ended it. -/
def withoutEscapes : Nat → List Char → List Char × Bool
  | 0, _ => ([], false)
  | _ + 1, [] => ([], false)
  | fuel + 1, '\\' :: rest =>
    match sayEscape true rest with
    | none => ([], true)
    | some (own, rest) =>
      let (others, ended) := withoutEscapes fuel rest
      (own ++ others, ended)
  | fuel + 1, c :: rest =>
    let (others, ended) := withoutEscapes fuel rest
    (c :: others, ended)

/-- Says its arguments. -/
def echo : Program := fun c => do
  let isOption (arg : String) : Bool :=
    match arg.toList with
    | '-' :: c :: cs => (c :: cs).all fun c => c = 'n' || c = 'e' || c = 'E'
    | _ => false
  if c.args = ["--help"] || c.args = ["--version"] then return 0
  let options := c.args.takeWhile isOption
  let letters := options.flatMap String.toList
  let text := String.intercalate " " (c.args.drop options.length)
  let escapes := (letters.reverse.find? fun c => c = 'e' || c = 'E') = some 'e'
  let (own, ended) :=
    if escapes then withoutEscapes (text.length + 1) text.toList else (text.toList, false)
  Act.say (String.ofList own ++ if letters.contains 'n' || ended then "" else "\n")
  return 0

/-- Says something over and over. It says as much as anybody reads, and is ended by that. -/
def yes : Program := fun c => do
  let a ← understand c []
  let text := if a.operands.isEmpty then "y" else String.intercalate " " a.operands
  let once := String.join (List.replicate 64 (text ++ "\n"))
  Act.say (String.join (List.replicate 1024 once))
  return 141

/-! ## Formats -/

/-- The state of saying by a format: the arguments that are left, and the status. -/
structure Saying where
  args : List String
  taken : Bool := false
  status : Nat := 0

/-- Steps of saying by a format. -/
abbrev Says := StateT Saying Act

namespace Says

/-- Takes the next argument. -/
def next? : Says (Option String) := do
  let s ← get
  match s.args with
  | [] => return none
  | a :: rest =>
    set { s with args := rest, taken := true }
    return some a

/-- Complains about an argument. -/
def complain (c : Call) (argument text : String) : Says Unit := do
  modify fun s => { s with status := 1 }
  c.complain (shellQuoted argument ++ ": " ++ text)

/-- Complains about what could not be read of an argument. -/
def check (c : Call) (argument : String) (read far : Bool) (rest : List Char) : Says Unit := do
  if !read then complain c argument "expected a numeric value"
  else if far then complain c argument "Numerical result out of range"
  else if !rest.isEmpty then complain c argument "value not completely converted"

/-- The number of the character after a quote. -/
def quotedNumber? (c : Call) (argument : String) : Says (Option Nat) := do
  match argument.toList with
  | '"' :: d :: rest | '\'' :: d :: rest =>
    if !rest.isEmpty then
      c.complain ("warning: " ++ String.ofList rest ++
        ": character(s) following character constant have been ignored")
    return some d.toNat
  | _ => return none

/-- The next argument as an integer between bounds. -/
def integer (c : Call) (least greatest : Int) : Says Int := do
  match ← next? with
  | none => return 0
  | some a =>
    match ← quotedNumber? c a with
    | some n => return n
    | none =>
      match Shell.integer? true a.toList with
      | none =>
        check c a (a.isEmpty) false []
        return 0
      | some (n, rest) =>
        check c a true (n < least || greatest < n) rest
        return max least (min n greatest)

/-- The next argument as a fractional number. -/
def fraction (c : Call) : Says Quantity := do
  let zero : Quantity := .finite ⟨false, .zero⟩
  match ← next? with
  | none => return zero
  | some a =>
    match ← quotedNumber? c a with
    | some n => return (Quantity.ofRatio false n 1).1
    | none =>
      match Quantity.read? a.toList with
      | none =>
        check c a a.isEmpty false []
        return zero
      | some (q, far, rest) =>
        check c a true far rest
        return q

/-- Reads a width or a precision. -/
def measure (c : Call) (cs : List Char) : Says (Int × List Char) := do
  match cs with
  | '*' :: rest => return (← integer c (-2147483648) 2147483647, rest)
  | cs =>
    let digits := cs.takeWhile Char.isDigit
    return (((String.ofList digits).toNat?.getD 0 : Nat), cs.drop digits.length)

/-- The bounds of integers with a sign. -/
def signed (c : Call) : Says Int := integer c (-9223372036854775808) 9223372036854775807

/-- The next argument as an integer without a sign. -/
def natural (c : Call) : Says Nat := do
  let n ← integer c (-18446744073709551615) 18446744073709551615
  return (n % 18446744073709551616).toNat

/-- Says the next argument as a letter asks for it. -/
def convert (c : Call) (f : Format) (letter : Char) : Says Bool := do
  match letter with
  | 's' => Act.say (f.text ((← next?).getD ""))
  | 'c' =>
    let text := (← next?).elim "" fun a => String.ofList (a.toList.take 1)
    Act.say ({ f with precision := none }.text text)
  | 'd' | 'i' => Act.say (f.integer (← signed c))
  | 'u' => Act.say (f.natural 10 false (← natural c))
  | 'o' => Act.say (f.natural 8 false (← natural c))
  | 'x' => Act.say (f.natural 16 false (← natural c))
  | 'X' => Act.say (f.natural 16 true (← natural c))
  | 'e' | 'E' | 'f' | 'F' | 'g' | 'G' => Act.say (f.fraction letter (← fraction c))
  | _ => return false
  return true

/-- Says what a format begins with a per cent sign, and tells what is left of the format, unless all
is ended. -/
def directive (c : Call) (cs : List Char) : Says (Option (List Char)) := do
  match cs with
  | 'b' :: rest =>
    let text := (← next?).getD ""
    let (own, ended) := withoutEscapes (text.length + 1) text.toList
    Act.say (String.ofList own)
    return if ended then none else some rest
  | 'q' :: rest =>
    Act.say (shellText ((← next?).getD ""))
    return some rest
  | cs =>
    let flags := cs.takeWhile fun c => c ∈ ['#', '-', '+', ' ', '0', '\'', 'I']
    let (width, rest) ← measure c (cs.drop flags.length)
    let (precision, rest) ←
      match rest with
      | '.' :: rest => do
        let (n, rest) ← measure c rest
        pure (if n < 0 then none else some n.toNat, rest)
      | rest => pure (none, rest)
    let rest := rest.dropWhile fun c => c ∈ ['l', 'L', 'h', 'j', 't', 'z']
    let start := cs.take (cs.length - rest.length)
    let refuse (letter : List Char) : Says (Option (List Char)) := do
      c.complain ("%" ++ String.ofList (start ++ letter) ++ ": invalid conversion specification")
      throw 1
    match rest with
    | [] => refuse []
    | letter :: rest =>
      let f : Format := {
        left := flags.contains '-' || width < 0
        signed := flags.contains '+'
        blank := flags.contains ' '
        zeros := flags.contains '0'
        full := flags.contains '#'
        width := width.natAbs
        precision }
      if ← convert c f letter then return some rest else refuse [letter]

/-- Says what a format says. The result tells whether all is ended. -/
def once (c : Call) : Nat → List Char → Says Bool
  | 0, _ => return false
  | fuel + 1, cs => do
    match cs with
    | [] => return false
    | '\\' :: rest =>
      match sayEscape false rest with
      | none => return true
      | some (own, rest) =>
        Act.say (String.ofList own)
        once c fuel rest
    | '%' :: '%' :: rest =>
      Act.say "%"
      once c fuel rest
    | '%' :: rest =>
      match ← directive c rest with
      | none => return true
      | some rest => once c fuel rest
    | d :: rest =>
      Act.say (String.singleton d)
      once c fuel rest

/-- Uses a format until no argument is left. -/
def all (c : Call) (format : List Char) : Nat → Says Unit
  | 0 => return
  | fuel + 1 => do
    let ended ← once c (format.length + 1) format
    let s ← get
    if ended || s.args.isEmpty then return
    if s.taken then all c format fuel
    else
      c.complain ("warning: ignoring excess arguments, starting with " ++
        shellQuoted (s.args.head?.getD ""))

end Says

/-- Says arguments by a format. -/
def printf : Program := fun c => do
  if c.args = ["--help"] || c.args = ["--version"] then return 0
  match if c.args.head? = some "--" then c.args.tail else c.args with
  | [] => missingOperand c
  | format :: args =>
    let (_, s) ← (Says.all c format.toList (args.length + 1)).run { args }
    return s.status

/-! ## Numbers in a row -/

/-- A number with a fraction of so many digits. -/
structure Decimal where
  /-- The number without its point. -/
  digits : Int
  places : Nat

/-- Reads a number for a row. -/
def Decimal.read? (text : String) : Option Decimal :=
  let cs := text.toList.dropWhile fun c => c = ' ' || ('\t' ≤ c && c ≤ '\r')
  let (negative, cs) :=
    match cs with
    | '-' :: rest => (true, rest)
    | '+' :: rest => (false, rest)
    | cs => (false, cs)
  let signed (n : Nat) : Int := if negative then -(n : Int) else n
  match cs with
  | '0' :: 'x' :: rest =>
    if !rest.isEmpty && rest.all (Quantity.isDigit true) then
      some ⟨signed (rest.foldl (fun n c => n * 16 + Quantity.digit c) 0), 0⟩
    else none
  | cs =>
    let whole := cs.takeWhile Char.isDigit
    let rest := cs.drop whole.length
    let (part, rest) :=
      match rest with
      | '.' :: after => (after.takeWhile Char.isDigit, after.dropWhile Char.isDigit)
      | rest => ([], rest)
    if whole.isEmpty && part.isEmpty then none
    else
      let n := (whole ++ part).foldl (fun n c => n * 10 + Quantity.digit c) 0
      match rest with
      | [] => some ⟨signed n, part.length⟩
      | rest =>
        match Quantity.exponent? 'e' rest with
        | some (e, []) =>
          let places : Int := part.length - e
          some ⟨signed n * Nat.pow 10 (-places).toNat, places.toNat⟩
        | _ => none

/-- The digits of a number with more places. -/
def Decimal.scaled (d : Decimal) (places : Nat) : Int := d.digits * Nat.pow 10 (places - d.places)

/-- The text of a number without its point. -/
def Decimal.show (places : Nat) (n : Int) : String :=
  let digits := toString n.natAbs
  let digits := Format.repeated '0' (places + 1 - digits.length) ++ digits
  let whole := digits.toList.take (digits.length - places)
  let part := digits.toList.drop (digits.length - places)
  (if n < 0 then "-" else "") ++ String.ofList whole ++
    (if places = 0 then "" else "." ++ String.ofList part)

/-- The numbers of a row, at most so many. -/
def rowFrom (step last : Int) : Nat → Int → List Int
  | 0, _ => []
  | fuel + 1, n =>
    if (0 < step && last < n) || (step < 0 && n < last) then []
    else n :: rowFrom step last fuel (n + step)

/-- The longest row. -/
def maxRow : Nat := 10000000

/-- Arguments with the sign of what looks like a number kept from being read as an option. -/
def splitAtNumber : List String → List String × List String
  | [] => ([], [])
  | arg :: rest =>
    match arg.toList with
    | '-' :: c :: cs =>
      if c.isDigit || c = '.' then ([], arg :: rest)
      else if (arg = "-s" || arg = "-f") && cs.isEmpty then
        match rest with
        | value :: rest =>
          let (own, others) := splitAtNumber rest
          (arg :: value :: own, others)
        | [] => ([arg], [])
      else if arg = "--" then ([], rest)
      else
        let (own, others) := splitAtNumber rest
        (arg :: own, others)
    | _ => ([], arg :: rest)

/-- The parts of a format for one number, or what is wrong with it. -/
def rowFormat (text : String) : Except String (String × Format × Char × String) :=
  let unpercent (cs : List Char) : String := (String.ofList cs).replace "%%" "%"
  let rec findDirective : Nat → List Char → List Char → Option (List Char × List Char)
    | 0, _, _ => none
    | _ + 1, _, [] => none
    | fuel + 1, before, '%' :: '%' :: rest => findDirective fuel ('%' :: before) rest
    | _ + 1, before, '%' :: rest => some (before.reverse, rest)
    | fuel + 1, before, c :: rest => findDirective fuel (c :: before) rest
  match findDirective (text.length + 1) [] text.toList with
  | none => .error ("format " ++ shellQuoted text ++ " has no % directive")
  | some (before, cs) =>
    let flags := cs.takeWhile fun c => c ∈ ['#', '-', '+', ' ', '0', '\'']
    let rest := cs.drop flags.length
    let width := rest.takeWhile Char.isDigit
    let rest := rest.drop width.length
    let (precision, rest) : Option Nat × List Char :=
      match rest with
      | '.' :: rest =>
        (some ((String.ofList (rest.takeWhile Char.isDigit)).toNat?.getD 0),
          rest.dropWhile Char.isDigit)
      | rest => (none, rest)
    match rest with
    | [] => .error ("format " ++ shellQuoted text ++ " ends in %")
    | letter :: rest =>
      if letter ∈ ['e', 'f', 'g', 'E', 'F', 'G', 'a', 'A'] then
        if (findDirective (rest.length + 1) [] rest).isSome then
          .error ("format " ++ shellQuoted text ++ " has too many % directives")
        else
          .ok (String.ofList before, {
            left := flags.contains '-'
            signed := flags.contains '+'
            blank := flags.contains ' '
            zeros := flags.contains '0'
            full := flags.contains '#'
            width := (String.ofList width).toNat?.getD 0
            precision }, letter, unpercent rest)
      else
        .error ("format " ++ shellQuoted text ++ " has unknown %" ++ String.singleton letter ++
          " directive")

/-- Says numbers in a row. -/
def seq : Program := fun c => do
  let (own, numbers) := splitAtNumber c.args
  let a ← understand { c with args := own }
    [named 's' "separator" .something, named 'f' "format" .something, named 'w' "equal-width"] 1
    false
  let operands := a.operands ++ numbers
  if operands.isEmpty then missingOperand c
  if let some extra := operands[3]? then extraOperand c extra
  let numbers ← operands.mapM fun text => do
    match Decimal.read? text with
    | some d => return d
    | none =>
      if (Text.Quantity.read? text.toList).any fun (q, _, rest) =>
          rest.isEmpty && (match q with | .undefined _ => true | _ => false) then
        c.misuse 1 ("invalid 'not-a-number' argument: " ++ textQuoted text)
      else c.misuse 1 ("invalid floating point argument: " ++ textQuoted text)
  let (first, step, last) : Decimal × Decimal × Decimal :=
    match numbers with
    | [last] => (⟨1, 0⟩, ⟨1, 0⟩, last)
    | [first, last] => (first, ⟨1, 0⟩, last)
    | first :: step :: last :: _ => (first, step, last)
    | [] => (⟨1, 0⟩, ⟨1, 0⟩, ⟨0, 0⟩)
  if step.digits = 0 then
    c.misuse 1 ("invalid Zero increment value: " ++ textQuoted (operands[1]?.getD ""))
  let places := max first.places step.places
  let common := max places last.places
  let row := rowFrom (step.scaled common) (last.scaled common) maxRow (first.scaled common)
  let shrink (n : Int) : Int := n / Nat.pow 10 (common - places)
  let texts ←
    match a.value? "f" with
    | none => pure (row.map fun n => Decimal.show places (shrink n))
    | some text =>
      match rowFormat text with
      | .error complaint =>
        c.complain complaint
        throw 1
      | .ok (before, f, letter, after) =>
        pure (row.map fun n =>
          let q := (Quantity.ofRatio (n < 0) n.natAbs (Nat.pow 10 common)).1
          before ++ f.fraction letter q ++ after)
  let ends := [first, last].map fun d => (Decimal.show places (shrink (d.scaled common))).length
  let width := ends.max?.getD 0
  let widened (text : String) : String :=
    match text.toList with
    | '-' :: cs => "-" ++ Format.repeated '0' (width - text.length) ++ String.ofList cs
    | _ => Format.repeated '0' (width - text.length) ++ text
  let texts := if a.has "w" then texts.map widened else texts
  if !texts.isEmpty then
    Act.say (String.intercalate ((a.value? "s").getD "\n") texts ++ "\n")
  return 0

end ContractBindings.Utility
