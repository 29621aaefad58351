import ContractBindings.Shell.Session

/-!
# Arithmetic

Expressions over integers of 64 bits, which wrap around, with the variables of the shell. An
expression is evaluated while it is read, so that the first thing that is wrong is complained about.

* `integer?`: the integer at the start of a text, in one of three bases.
* `Sh.evaluate`: the value of an expression.
-/

namespace ContractBindings.Shell

/-! ## Integers -/

/-- The value of a digit in a base. -/
def digit? (base : Nat) (c : Char) : Option Nat :=
  let value? :=
    if c.isDigit then some (c.toNat - '0'.toNat)
    else if 'a' ≤ c && c ≤ 'z' then some (c.toNat - 'a'.toNat + 10)
    else if 'A' ≤ c && c ≤ 'Z' then some (c.toNat - 'A'.toNat + 10)
    else none
  value?.filter (· < base)

/-- The number of digits at the start of a text, and what is left. -/
def digitsOf (base : Nat) (cs : List Char) : Nat × List Char :=
  let digits := cs.takeWhile fun c => (digit? base c).isSome
  (digits.foldl (fun n c => n * base + (digit? base c).getD 0) 0, cs.drop digits.length)

/-- A blank of any kind. -/
def isSpace (c : Char) : Bool := c = ' ' || ('\t' ≤ c && c ≤ '\r')

/-- The integer at the start of a text, and what is left. With `anyBase`, `0x`, `0b` and `0`
before the digits name the base. -/
def integer? (anyBase : Bool) (cs : List Char) : Option (Int × List Char) :=
  let cs := cs.dropWhile isSpace
  let (negative, cs) :=
    match cs with
    | '-' :: rest => (true, rest)
    | '+' :: rest => (false, rest)
    | cs => (false, cs)
  let isHex (c : Char) : Bool := (digit? 16 c).isSome
  let magnitude? : Option (Nat × List Char) :=
    match anyBase, cs with
    | true, '0' :: x :: c :: rest =>
      if x.toLower = 'x' && isHex c then some (digitsOf 16 (c :: rest))
      else if x.toLower = 'b' && (digit? 2 c).isSome then some (digitsOf 2 (c :: rest))
      else some (digitsOf 8 cs)
    | true, '0' :: _ => some (digitsOf 8 cs)
    | _, c :: _ => if c.isDigit then some (digitsOf 10 cs) else none
    | _, [] => none
  magnitude?.map fun (n, rest) => (if negative then -(n : Int) else n, rest)

/-- The integer has 64 bits. -/
def isInRange (n : Int) : Bool := -9223372036854775808 ≤ n && n ≤ 9223372036854775807

/-- The nearest integer that has 64 bits. -/
def clamped (n : Int) : Int64 :=
  if n < -9223372036854775808 then Int64.minValue
  else if 9223372036854775807 < n then Int64.maxValue
  else Int64.ofInt n

/-- The integer that a text stands for. Outside of expressions it needs a digit. -/
def Sh.integer (inExpression : Bool) (text : String) : Sh Int64 := do
  let (n, rest) := (integer? inExpression text.toList).getD (0, text.toList)
  if !isInRange n then Sh.fault ("Illegal number: " ++ text)
  if !inExpression && (integer? false text.toList).isNone then
    Sh.fault ("Illegal number: " ++ text)
  if rest.any (!isSpace ·) then Sh.fault ("Illegal number: " ++ text)
  return Int64.ofInt n

namespace Arithmetic

/-! ## Tokens -/

/-- A token of an expression. -/
inductive Token where
  | number (value : Int64)
  | name (text : String)
  | symbol (text : String)
  /-- Nothing that belongs into an expression. What follows it is not looked at. -/
  | unknown
  deriving DecidableEq

/-- The symbols, longer ones first. -/
def symbols : List (List Char) :=
  ["<<=", ">>=", "==", "!=", "<=", ">=", "<<", ">>", "||", "&&", "*=", "/=", "%=", "+=", "-=",
    "&=", "^=", "|=", "=", "<", ">", "|", "&", "!", "(", ")", "*", "/", "%", "+", "-", "~", "^",
    "?", ":"].map String.toList

/-- Cuts an expression into tokens. -/
def tokens : Nat → List Char → List Token
  | 0, _ => []
  | _ + 1, [] => []
  | fuel + 1, c :: rest =>
    if c = ' ' || c = '\t' || c = '\n' then tokens fuel rest
    else if c.isDigit then
      let (n, rest) := (integer? true (c :: rest)).getD (0, rest)
      .number (clamped n) :: tokens fuel rest
    else if startsName c then
      let name := (c :: rest).takeWhile continuesName
      .name (String.ofList name) :: tokens fuel ((c :: rest).drop name.length)
    else
      match symbols.find? (·.isPrefixOf (c :: rest)) with
      | some symbol =>
        .symbol (String.ofList symbol) :: tokens fuel ((c :: rest).drop symbol.length)
      | none => [.unknown]

/-- How loosely an operator between two values binds. -/
def looseness? (operator : String) : Option Nat :=
  if operator ∈ ["*", "/", "%"] then some 0
  else if operator ∈ ["+", "-"] then some 1
  else if operator ∈ ["<<", ">>"] then some 2
  else if operator ∈ ["<", "<=", ">", ">="] then some 3
  else if operator ∈ ["==", "!="] then some 4
  else if operator = "&" then some 5
  else if operator = "^" then some 6
  else if operator = "|" then some 7
  else none

/-- The operator between two values that comes next. -/
def operator? : List Token → Option (String × Nat)
  | .symbol s :: _ => (looseness? s).map fun n => (s, n)
  | _ => none

/-- The operator of an assignment, less its sign of equality. -/
def assignment? : List Token → Option String
  | .symbol s :: _ =>
    if s ∈ ["=", "<<=", ">>=", "*=", "/=", "%=", "+=", "-=", "&=", "^=", "|="] then
      some (String.ofList s.toList.dropLast)
    else none
  | _ => none

/-- One for what holds, and zero for what does not. -/
def ofBool (b : Bool) : Int64 := if b then 1 else 0

/-! ## Values -/

/-- Complains about an expression. -/
def stop {α : Type} (expression text : String) : Sh α :=
  Sh.fault ("arithmetic expression: " ++ text ++ ": \"" ++ expression ++ "\"")

/-- The value of an operator between two values. -/
def combine (expression operator : String) (a b : Int64) : Sh Int64 := do
  match operator with
  | "/" | "%" =>
    if b = 0 then stop expression "division by zero"
    if a = Int64.minValue && b = -1 then throw (.ended (.signal 8))
    return if operator = "/" then a / b else a % b
  | "*" => return a * b
  | "+" => return a + b
  | "-" => return a - b
  | "<<" => return a <<< b
  | ">>" => return a >>> b
  | "<" => return ofBool (a < b)
  | "<=" => return ofBool (a ≤ b)
  | ">" => return ofBool (b < a)
  | ">=" => return ofBool (b ≤ a)
  | "==" => return ofBool (a = b)
  | "!=" => return ofBool (a ≠ b)
  | "&" => return a &&& b
  | "^" => return a ^^^ b
  | _ => return a ||| b

/-- The value of a variable as a number. -/
def valueOf (name : String) : Sh Int64 := do
  Sh.integer true ((← Sh.lookup? name).getD "")

mutual

/-- The value of an assignment, or of a choice. Nothing is looked up, and nothing assigned, if it is
`idle`. -/
def assignment (expression : String) : Nat → Bool → List Token → Sh (Int64 × List Token)
  | 0, _, ts => return (0, ts)
  | fuel + 1, idle, ts => do
    match ts with
    | .name name :: rest =>
      match assignment? rest with
      | some operator =>
        let (value, rest) ← assignment expression fuel idle rest.tail
        if idle then return (value, rest)
        let value ←
          if operator.isEmpty then pure value
          else do combine expression operator (← valueOf name) value
        Sh.assignNamed name (some (toString value.toInt))
        return (value, rest)
      | none => choice expression fuel idle ts
    | ts => choice expression fuel idle ts

/-- The value of a choice, or of an alternative. -/
def choice (expression : String) : Nat → Bool → List Token → Sh (Int64 × List Token)
  | 0, _, ts => return (0, ts)
  | fuel + 1, idle, ts => do
    let (a, rest) ← either expression fuel idle ts
    match rest with
    | .symbol "?" :: rest =>
      let (b, rest) ← assignment expression fuel (idle || a = 0) rest
      match rest with
      | .symbol ":" :: rest =>
        let (c, rest) ← choice expression fuel (idle || a ≠ 0) rest
        return (if a ≠ 0 then b else c, rest)
      | _ => stop expression "expecting ':'"
    | rest => return (a, rest)

/-- The value of alternatives. -/
def either (expression : String) : Nat → Bool → List Token → Sh (Int64 × List Token)
  | 0, _, ts => return (0, ts)
  | fuel + 1, idle, ts => do
    let (a, rest) ← both expression fuel idle ts
    match rest with
    | .symbol "||" :: rest =>
      let (b, rest) ← either expression fuel (idle || a ≠ 0) rest
      return (ofBool (a ≠ 0 || b ≠ 0), rest)
    | rest => return (a, rest)

/-- The value of conditions that all have to hold. -/
def both (expression : String) : Nat → Bool → List Token → Sh (Int64 × List Token)
  | 0, _, ts => return (0, ts)
  | fuel + 1, idle, ts => do
    let (a, rest) ← primary expression fuel idle ts
    let (a, rest) ←
      match operator? rest with
      | some (operator, _) => operation expression fuel idle a operator 8 rest.tail
      | none => pure (a, rest)
    match rest with
    | .symbol "&&" :: rest =>
      let (b, rest) ← both expression fuel (idle || a = 0) rest
      return (ofBool (a ≠ 0 && b ≠ 0), rest)
    | rest => return (a, rest)

/-- The value of operators that bind more tightly than a limit, after a first value and the first
operator. -/
def operation (expression : String) : Nat → Bool → Int64 → String → Nat → List Token →
    Sh (Int64 × List Token)
  | 0, _, a, _, _, ts => return (a, ts)
  | fuel + 1, idle, a, operator, limit, ts => do
    let loose := (looseness? operator).getD 0
    let (b, rest) ← primary expression fuel idle ts
    let (b, rest) ←
      match operator? rest with
      | some (tighter, n) =>
        if n < loose then operation expression fuel idle b tighter loose rest.tail
        else pure (b, rest)
      | none => pure (b, rest)
    let a ← if idle then pure b else combine expression operator a b
    match operator? rest with
    | some (next, n) =>
      if n < limit then operation expression fuel idle a next limit rest.tail
      else return (a, rest)
    | none => return (a, rest)

/-- The value of a number, a variable, or an expression in brackets. -/
def primary (expression : String) : Nat → Bool → List Token → Sh (Int64 × List Token)
  | 0, _, ts => return (0, ts)
  | fuel + 1, idle, ts => do
    match ts with
    | .symbol "(" :: rest =>
      let (a, rest) ← assignment expression fuel idle rest
      match rest with
      | .symbol ")" :: rest => return (a, rest)
      | _ => stop expression "expecting ')'"
    | .number n :: rest => return (n, rest)
    | .name name :: rest => return (← if idle then pure 0 else valueOf name, rest)
    | .symbol "+" :: rest => primary expression fuel idle rest
    | .symbol "-" :: rest =>
      let (a, rest) ← primary expression fuel idle rest
      return (-a, rest)
    | .symbol "!" :: rest =>
      let (a, rest) ← primary expression fuel idle rest
      return (ofBool (a = 0), rest)
    | .symbol "~" :: rest =>
      let (a, rest) ← primary expression fuel idle rest
      return (~~~a, rest)
    | _ => stop expression "expecting primary"

end

end Arithmetic

/-- The value of an expression. -/
def Sh.evaluate (expression : String) : Sh Int64 := do
  let ts := Arithmetic.tokens (expression.length + 1) expression.toList
  let (value, rest) ← Arithmetic.assignment expression (ts.length * 8 + 8) false ts
  if !rest.isEmpty then Arithmetic.stop expression "expecting EOF"
  return value

end ContractBindings.Shell
