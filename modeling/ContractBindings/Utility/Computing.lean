import ContractBindings.Text.Regex.Reader
import ContractBindings.Utility.Arguments

/-!
# Computing

`expr` computes with numbers and texts that are given as arguments.
-/

namespace ContractBindings.Utility

open Process
open Text (Regex Subject)

/-- The arguments of a computation: those that are left, and the one before them. -/
structure Computing where
  rest : List String
  last : String := ""

/-- Steps of computing. Values are texts. -/
abbrev Computes := StateT Computing Act

namespace Computes

/-- Refuses a computation. -/
def refuse {α : Type} (c : Call) (text : String) : Computes α := do
  c.complain text
  throw 2

/-- Takes an argument, which there must be. -/
def take (c : Call) : Computes String := do
  let s ← get
  match s.rest with
  | [] => refuse c ("syntax error: missing argument after " ++ textQuoted s.last)
  | a :: rest =>
    set { s with rest, last := a }
    return a

/-- Takes an argument if it is one of some. -/
def takeAny (words : List String) : Computes (Option String) := do
  let s ← get
  match s.rest with
  | a :: rest =>
    if a ∈ words then
      set { s with rest, last := a }
      return some a
    else return none
  | [] => return none

/-- The value stands for nothing. -/
def isNull (value : String) : Bool :=
  match value.toList with
  | [] => true
  | ['-'] => false
  | '-' :: cs | cs => cs.all (· = '0')

/-- The value as a number. -/
def number? (value : String) : Option Int :=
  let digits :=
    match value.toList with
    | '-' :: cs => cs
    | cs => cs
  if digits.isEmpty || !digits.all Char.isDigit then none
  else
    let n := digits.foldl (fun n d => n * 10 + (d.toNat - '0'.toNat)) 0
    some (if value.toList.head? = some '-' then -(n : Int) else n)

/-- The value of a condition. -/
def ofBool (b : Bool) : String := if b then "1" else "0"

/-- Matches a pattern at the start of a text: what its group matches, or how long the match is. -/
def matched (c : Call) (text pattern : String) : Computes String := do
  match Regex.read { } pattern with
  | .error fault => refuse c fault.text
  | .ok (r, _) =>
    let s : Subject := { text := text.toList.toArray }
    let grouped := r.groupCount ≠ 0
    match r.matchAt? s 0 with
    | none => return if grouped then "" else "0"
    | some f => return if grouped then f.group s 1 else toString f.last

/-- Compares two values, as numbers if both are. -/
def compared (operator a b : String) : String :=
  let order :=
    match number? a, number? b with
    | some x, some y => compare x y
    | _, _ => compare a b
  ofBool <|
    match operator with
    | "<" => order = .lt
    | "<=" => order ≠ .gt
    | "=" | "==" => order = .eq
    | "!=" => order ≠ .eq
    | ">=" => order ≠ .lt
    | _ => order = .gt

/-- Computes with two numbers. -/
def computed (c : Call) (operator a b : String) : Computes String := do
  match number? a, number? b with
  | some x, some y =>
    match operator with
    | "+" => return toString (x + y)
    | "-" => return toString (x - y)
    | "*" => return toString (x * y)
    | _ =>
      if y = 0 then refuse c "division by zero"
      return toString (if operator = "/" then x.tdiv y else x.tmod y)
  | _, _ => refuse c "non-integer argument"

/-- The operators between two values, those that bind least first. -/
def operators : List (List String) :=
  [["|"], ["&"], ["<", "<=", "=", "==", "!=", ">=", ">"], ["+", "-"], ["*", "/", "%"], [":"]]

mutual

/-- Computes with operators from a rank on. Nothing is computed unless it `counts`. -/
def ranked (c : Call) : Nat → Bool → List (List String) → Computes String
  | 0, _, _ => return ""
  | fuel + 1, counts, [] => primary c fuel counts
  | fuel + 1, counts, words :: ranks => do
    let first ← ranked c fuel counts ranks
    following c fuel counts words ranks first

/-- Goes on with operators of a rank after a value. -/
def following (c : Call) : Nat → Bool → List String → List (List String) → String → Computes String
  | 0, _, _, _, value => return value
  | fuel + 1, counts, words, ranks, a => do
    match ← takeAny words with
    | none => return a
    | some operator =>
      let needed : Bool :=
        match operator with
        | "|" => isNull a
        | "&" => !isNull a
        | _ => true
      let b ← ranked c fuel (counts && needed) ranks
      let value : String ←
        match operator with
        | "|" => pure (if !isNull a then a else if isNull b then "0" else b)
        | "&" => pure (if isNull a || isNull b then "0" else a)
        | ":" => if counts then matched c a b else pure ""
        | _ =>
          if operator ∈ ["+", "-", "*", "/", "%"] then
            if counts then computed c operator a b else pure ""
          else pure (compared operator a b)
      following c fuel counts words ranks value

/-- Computes a value without operators. -/
def primary (c : Call) : Nat → Bool → Computes String
  | 0, _ => return ""
  | fuel + 1, counts => do
    match ← take c with
    | "+" => take c
    | "length" => return toString (← primary c fuel counts).length
    | "match" =>
      let text ← primary c fuel counts
      let pattern ← primary c fuel counts
      if counts then matched c text pattern else return ""
    | "index" =>
      let text ← primary c fuel counts
      let set ← primary c fuel counts
      let before := text.toList.takeWhile fun d => !set.toList.contains d
      return if before.length = text.length then "0" else toString (before.length + 1)
    | "substr" =>
      let text ← primary c fuel counts
      let first ← primary c fuel counts
      let count ← primary c fuel counts
      match number? first, number? count with
      | some i, some n =>
        if i ≤ 0 || n ≤ 0 then return ""
        return String.ofList ((text.toList.drop (i.toNat - 1)).take n.toNat)
      | _, _ => return ""
    | "(" =>
      let value ← ranked c fuel counts operators
      if (← takeAny [")"]).isNone then
        let s ← get
        match s.rest with
        | [] => refuse c ("syntax error: expecting ')' after " ++ textQuoted s.last)
        | a :: _ => refuse c ("syntax error: expecting ')' instead of " ++ textQuoted a)
      return value
    | ")" => refuse c "syntax error: unexpected ')'"
    | value => return value

end

end Computes

/-- Computes with its arguments, and says the result. -/
def expr : Program := fun c => do
  if c.args = ["--help"] || c.args = ["--version"] then return 0
  let args := if c.args.head? = some "--" then c.args.tail else c.args
  if args.isEmpty then c.misuse 2 "missing operand"
  let (value, s) ← (Computes.ranked c (16 * args.length + 16) true Computes.operators).run
    { rest := args }
  if let some extra := s.rest.head? then
    c.complain ("syntax error: unexpected argument " ++ textQuoted extra)
    throw 2
  Act.sayLine value
  return if Computes.isNull value then 1 else 0

end ContractBindings.Utility
