import ContractBindings.Shell.Condition
import ContractBindings.Utility.Quoting

/-!
# Testing

The utility `test`, also known as `[`, outside a shell.
-/

namespace ContractBindings.Utility

open Process

/-- The words of a condition, and how many have been read. -/
structure Testing where
  words : Array String
  spot : Nat := 0

/-- Steps of testing. -/
abbrev Tests := StateT Testing Act

namespace Tests

/-- Refuses a condition. -/
def refuse {α : Type} (c : Call) (text : String) : Tests α := do
  c.complain text
  throw 2

/-- The word so many places on. -/
def ahead? (n : Nat := 0) : Tests (Option String) := do
  let s ← get
  return s.words[s.spot + n]?

/-- The number of words that are left. -/
def left : Tests Nat := do
  let s ← get
  return s.words.size - s.spot

/-- Complains that an argument is missing. -/
def beyond {α : Type} (c : Call) : Tests α := do
  refuse c ("missing argument after " ++ textQuoted ((← get).words.back?.getD ""))

/-- Goes on to the next word, which there must be if `more` says so. -/
def advance (c : Call) (more : Bool) : Tests Unit := do
  modify fun s => { s with spot := s.spot + 1 }
  if more && (← left) = 0 then beyond c

/-- Takes a word. -/
def take (c : Call) : Tests String := do
  let word := (← ahead?).getD ""
  advance c false
  return word

/-- An operator between two words. -/
def isBinary (word : Option String) : Bool :=
  word.any fun w => w ∈ ["=", "!=", "==", "<", ">", "-eq", "-ne", "-lt", "-le", "-gt", "-ge", "-nt",
    "-ot", "-ef"]

/-- Reads an integer. -/
def integer (c : Call) (text : String) : Tests Int := do
  let isBlank (d : Char) : Bool := d = ' ' || d = '\t'
  let cs := (text.toList.dropWhile isBlank).reverse.dropWhile isBlank |>.reverse
  let digits :=
    match cs with
    | '-' :: rest | '+' :: rest => rest
    | cs => cs
  if digits.isEmpty || !digits.all Char.isDigit then
    refuse c ("invalid integer " ++ textQuoted text)
  let n := digits.foldl (fun n d => n * 10 + (d.toNat - '0'.toNat)) 0
  return if cs.head? = some '-' then -(n : Int) else n

/-- Compares two words. A length stands for a number after `-l`. -/
def binary (c : Call) (withLength : Bool) : Tests Bool := do
  if withLength then advance c false
  let a ← take c
  let operator ← take c
  let otherLength := (← ahead?) = some "-l" && (← left) ≥ 2
  if otherLength then advance c false
  let b ← take c
  let number (isLength : Bool) (text : String) : Tests Int :=
    if isLength then return text.length else integer c text
  let compare (test : Int → Int → Bool) : Tests Bool := do
    return test (← number withLength a) (← number otherLength b)
  match operator with
  | "=" | "==" => return a = b
  | "!=" => return a ≠ b
  | "<" => return a < b
  | ">" => return b < a
  | "-eq" => compare fun x y => x = y
  | "-ne" => compare fun x y => x ≠ y
  | "-lt" => compare fun x y => x < y
  | "-le" => compare fun x y => x ≤ y
  | "-gt" => compare fun x y => y < x
  | "-ge" => compare fun x y => y ≤ x
  | operator =>
    -- What is not there is older than anything else.
    let d := (← (get : Act Machine)).disk
    let exists? (path : String) : Bool := (Shell.Condition.placed? d path).isSome
    return Shell.Condition.holdsOfBoth d operator a b ||
      (operator = "-nt" && exists? a && !exists? b) || (operator = "-ot" && exists? b && !exists? a)

/-- Whether a word looks like an operator before a word. -/
def looksUnary (word : String) : Bool :=
  match word.toList with
  | ['-', _] => true
  | _ => false

/-- Applies an operator that stands before a word. -/
def unary (c : Call) : Tests Bool := do
  let operator := (← ahead?).getD ""
  if operator ∉ ["-a", "-e", "-r", "-w", "-x", "-O", "-G", "-f", "-d", "-s", "-S", "-c", "-b", "-p",
      "-L", "-h", "-u", "-g", "-k", "-t", "-n", "-z", "-N"] then
    refuse c (textQuoted operator ++ ": unary operator expected")
  advance c true
  let word ← take c
  match operator with
  | "-n" => return !word.isEmpty
  | "-z" => return word.isEmpty
  | "-t" =>
    let _ ← integer c word
    return false
  | "-a" | "-e" => return Shell.Condition.holdsOf (← (get : Act Machine)).disk "-e" word
  | "-N" => return true
  | operator => return Shell.Condition.holdsOf (← (get : Act Machine)).disk operator word

mutual

/-- Whether a condition of a number of words holds. -/
def counted (c : Call) : Nat → Nat → Tests Bool
  | 0, _ => return false
  | fuel + 1, count => do
    let word (n : Nat) : Tests String := return (← ahead? n).getD ""
    match count with
    | 1 => return !(← take c).isEmpty
    | 2 =>
      if (← word 0) = "!" then
        advance c false
        return !(← counted c fuel 1)
      else if looksUnary (← word 0) then unary c
      else beyond c
    | 3 =>
      let middle ← word 1
      if isBinary middle then binary c false
      else if (← word 0) = "!" then
        advance c true
        return !(← counted c fuel 2)
      else if (← word 0) = "(" && (← word 2) = ")" then
        advance c false
        let holds ← counted c fuel 1
        advance c false
        return holds
      else if middle = "-a" || middle = "-o" then any c fuel
      else refuse c (textQuoted middle ++ ": binary operator expected")
    | count =>
      if count = 4 && (← word 0) = "!" then
        advance c true
        return !(← counted c fuel 3)
      else if count = 4 && (← word 0) = "(" && (← word 3) = ")" then
        advance c false
        let holds ← counted c fuel 2
        advance c false
        return holds
      else any c fuel

/-- Whether one of several conditions holds. -/
def any (c : Call) : Nat → Tests Bool
  | 0 => return false
  | fuel + 1 => do
    if (← left) = 0 then beyond c
    let holds ← all c fuel
    if (← ahead?) = some "-o" then
      advance c false
      let other ← any c fuel
      return holds || other
    else return holds

/-- Whether all of several conditions hold. -/
def all (c : Call) : Nat → Tests Bool
  | 0 => return false
  | fuel + 1 => do
    let holds ← term c fuel
    if (← ahead?) = some "-a" then
      advance c false
      let other ← all c fuel
      return holds && other
    else return holds

/-- Whether a single condition holds. -/
def term (c : Call) : Nat → Tests Bool
  | 0 => return false
  | fuel + 1 => do
    match ← ahead? with
    | none => beyond c
    | some "!" =>
      advance c true
      return !(← term c fuel)
    | some "(" =>
      advance c true
      let s ← get
      let rest := s.words.toList.drop s.spot
      let inside := (rest.drop 1).takeWhile (· ≠ ")")
      let count := if inside.length + 1 < 4 || inside.length + 1 = rest.length then
        inside.length + 1 else rest.length
      let holds ← counted c fuel count
      match ← ahead? with
      | some ")" =>
        advance c false
        return holds
      | none => refuse c "')' expected"
      | some other => refuse c ("')' expected, found " ++ textQuoted other)
    | some word =>
      let count ← left
      if 4 ≤ count && word = "-l" && isBinary (← ahead? 2) then binary c true
      else if 3 ≤ count && isBinary (← ahead? 1) then binary c false
      else if looksUnary word then unary c
      else return !(← take c).isEmpty

end

end Tests

/-- Tests a condition. -/
def test : Program := fun c => do
  let isBracket := baseName c.name = "["
  if isBracket && c.args.getLast? ≠ some "]" then
    c.complain "missing ']'"
    throw 2
  let words := if isBracket then c.args.dropLast else c.args
  if words.isEmpty then return 1
  let (holds, s) ← (Tests.counted c (8 * words.length + 8) words.length).run
    { words := words.toArray }
  if let some extra := s.words[s.spot]? then
    c.complain ("extra argument " ++ textQuoted extra)
    throw 2
  return if holds then 0 else 1

end ContractBindings.Utility
