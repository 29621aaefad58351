import ContractBindings.Shell.Arithmetic

/-!
# Conditions

The command `test`, also known as `[`: conditions on texts, numbers and files, put together with
`!`, `-a`, `-o` and brackets.
-/

namespace ContractBindings.Shell

open Process

namespace Condition

/-- How an operator stands to its operands. -/
inductive Kind where
  /-- Before one. -/
  | one
  /-- Between two. -/
  | two
  | negation
  /-- Between two conditions. -/
  | join
  | bracket
  deriving DecidableEq

/-- The kind of an operator. -/
def kind? (word : String) : Option Kind :=
  if word ∈ ["-r", "-w", "-x", "-e", "-f", "-d", "-c", "-b", "-p", "-u", "-g", "-k", "-s", "-t",
      "-z", "-n", "-h", "-O", "-G", "-L", "-S"] then some .one
  else if word ∈ ["=", "!=", "<", ">", "-eq", "-ne", "-ge", "-gt", "-le", "-lt", "-nt", "-ot",
      "-ef"] then some .two
  else if word = "!" then some .negation
  else if word ∈ ["-a", "-o"] then some .join
  else if word ∈ ["(", ")"] then some .bracket
  else none

/-! ## Files -/

/-- What holds of a file. -/
def holdsOf (d : Disk) (operator path : String) : Bool :=
  let text := Machine.pathText path
  let node? : Option Disk.Node :=
    match d.walk text (if operator = "-h" || operator = "-L" then .stay else .follow) with
    | .ok (.node _ node) => some node
    | _ => none
  match node? with
  | none => false
  | some node =>
    match operator, node with
    | "-e", _ | "-r", _ | "-w", _ | "-O", _ | "-G", _ => true
    | "-x", .file _ attributes => attributes.mode &&& 0o111 != 0
    | "-x", .device _ => false
    | "-x", _ => true
    | "-f", node => node.isFile
    | "-d", node => node.isDir
    | "-c", .device _ => true
    | "-u", .file _ attributes => attributes.mode &&& 0o4000 != 0
    | "-g", .file _ attributes => attributes.mode &&& 0o2000 != 0
    | "-k", .file _ attributes => attributes.mode &&& 0o1000 != 0
    | "-s", .file bytes _ => bytes.size != 0
    | "-s", .dir _ => true
    | "-h", .link _ | "-L", .link _ => true
    | _, _ => false

/-- The place to which a path leads, and the node there. -/
def placed? (d : Disk) (path : String) : Option (List String × Disk.Node) :=
  match d.walk (Machine.pathText path) .follow with
  | .ok (.node place node) => some (place, node)
  | _ => none

/-- Two paths lead to the same file. -/
def areSame (d : Disk) (a b : String) : Bool :=
  match placed? d a, placed? d b with
  | some (p, .file _ x), some (q, .file _ y) =>
    p == q || (x.identity != 0 && x.identity == y.identity)
  | some (p, _), some (q, _) => p == q
  | _, _ => false

/-- What holds of two files. -/
def holdsOfBoth (d : Disk) (operator a b : String) : Bool :=
  match placed? d a, placed? d b with
  | some (_, x), some (_, y) =>
    match operator with
    | "-nt" => y.time < x.time
    | "-ot" => x.time < y.time
    | _ => areSame d a b
  | _, _ => false

/-! ## Expressions -/

/-- What a word is where it stands. -/
inductive Token where
  | ended
  | operand
  | operator (kind : Kind) (text : String)
  deriving DecidableEq

/-- The words of a condition. -/
abbrev Words := Array String

/-- What the word at a place is. An operator with nothing to operate on is an operand. -/
def tokenAt (words : Words) (i : Nat) : Token :=
  match words[i]? with
  | none => .ended
  | some word =>
    match kind? word with
    | none => .operand
    | some kind =>
      let isOperand : Bool :=
        match words[i + 1]?, words[i + 2]? with
        | none, _ => true
        | some _, none => false
        | some next, some _ => kind? next = some .two
      if kind = .one && isOperand then .operand
      else if word = "(" && words[i + 1]?.isNone then .operand
      else .operator kind word

/-- Complains about an operator. -/
def stop {α : Type} (operator text : String) : Sh α :=
  Sh.fault (if operator.isEmpty then text else operator ++ ": " ++ text)

/-- Compares two words. -/
def compare (operator a b : String) : Sh Bool := do
  match operator with
  | "=" => return a == b
  | "!=" => return a != b
  | "<" => return a < b
  | ">" => return b < a
  | "-nt" | "-ot" | "-ef" =>
    return holdsOfBoth (← get).machine.disk operator a b
  | _ =>
    let x ← Sh.integer false a
    let y ← Sh.integer false b
    match operator with
    | "-eq" => return x = y
    | "-ne" => return x ≠ y
    | "-ge" => return y ≤ x
    | "-gt" => return y < x
    | "-le" => return x ≤ y
    | _ => return x < y

/-- Applies an operator that stands before its operand. -/
def apply (operator word : String) : Sh Bool := do
  match operator with
  | "-z" => return word.isEmpty
  | "-n" => return !word.isEmpty
  | "-t" =>
    let _ ← Sh.integer false word
    return false
  | _ => return holdsOf (← get).machine.disk operator word

mutual

/-- Whether one of several conditions holds, from the token at a place; the place of the last word
that was read. -/
def anyOf (words : Words) : Nat → Token → Nat → Bool → Sh (Bool × Nat)
  | 0, _, i, found => return (found, i)
  | fuel + 1, token, i, found => do
    let (holds, i) ← allOf words fuel token i true
    if tokenAt words (i + 1) = .operator .join "-o" then
      anyOf words fuel (tokenAt words (i + 2)) (i + 2) (found || holds)
    else return (found || holds, i)

/-- Whether all of several conditions hold. -/
def allOf (words : Words) : Nat → Token → Nat → Bool → Sh (Bool × Nat)
  | 0, _, i, found => return (found, i)
  | fuel + 1, token, i, found => do
    let (holds, i) ← negated words fuel token i
    if tokenAt words (i + 1) = .operator .join "-a" then
      allOf words fuel (tokenAt words (i + 2)) (i + 2) (found && holds)
    else return (found && holds, i)

/-- Whether a condition holds that may stand after a negation. -/
def negated (words : Words) : Nat → Token → Nat → Sh (Bool × Nat)
  | 0, _, i => return (false, i)
  | fuel + 1, token, i => do
    if token = .operator .negation "!" then
      let next := tokenAt words (i + 1)
      let (holds, i) ← negated words fuel next (if next = .ended then i else i + 1)
      return (!holds, i)
    else single words fuel token i

/-- Whether a single condition holds. -/
def single (words : Words) : Nat → Token → Nat → Sh (Bool × Nat)
  | 0, _, i => return (false, i)
  | fuel + 1, token, i => do
    match token with
    | .ended => return (false, i)
    | .operator .bracket "(" =>
      let next := tokenAt words (i + 1)
      if next = .operator .bracket ")" then return (false, i + 1)
      let (holds, i) ← anyOf words fuel next (i + 1) false
      if tokenAt words (i + 1) ≠ .operator .bracket ")" then stop "" "closing paren expected"
      return (holds, i + 1)
    | .operator .one operator =>
      match words[i + 1]? with
      | none => stop operator "argument expected"
      | some word => return (← apply operator word, i + 1)
    | _ =>
      let word := words[i]?.getD ""
      match tokenAt words (i + 1) with
      | .operator .two operator =>
        match words[i + 2]? with
        | none => stop operator "argument expected"
        | some other => return (← compare operator word other, i + 2)
      | _ => return (!word.isEmpty, i)

end

/-- Whether the whole condition holds. -/
def holds (words : Words) (token : Token) : Sh Bool := do
  let (value, i) ← anyOf words (words.size * 8 + 16) token 0 false
  match words[i]?, words[i + 1]? with
  | some word, some _ => stop word "unexpected operator"
  | _, _ => return value

/-- Whether words make a condition that holds. For up to four words, their number decides what
they mean. -/
def evaluate : Nat → List String → Sh Bool
  | 0, _ => return false
  | fuel + 1, words => do
    let whole (words : List String) : Sh Bool :=
      let words := words.toArray
      holds words (tokenAt words 0)
    let further (words : List String) : Sh Bool := do
      if words.head? = some "(" && words.getLast? = some ")" then whole words.tail.dropLast
      else if words.head? = some "!" then return !(← evaluate fuel words.tail)
      else whole words
    match words with
    | [] => return false
    | [_, operator, _] =>
      if kind? operator = some .two then holds words.toArray .operand else further words
    | [_, _, _, _] => further words
    | words => whole words

end Condition

/-- Tests a condition, under the name of the command. -/
def Sh.test (name : String) (args : List String) : Sh Nat := do
  let words ←
    if name.toList.head? = some '[' then
      if (args.getLast?.bind (·.toList.head?)) = some ']' then pure args.dropLast
      else Sh.fault "missing ]"
    else pure args
  let holds ← Condition.evaluate (words.length + 1) words
  return if holds then 0 else 1

end ContractBindings.Shell
