/-!
# Patterns

A pattern is a text in which `*` stands for any text, `?` for any character, and brackets for one of
the characters between them. A backslash takes the meaning from the character after it.
-/

namespace ContractBindings.Text.Pattern

/-- The classes of characters that have a name. -/
def class? (name : List Char) : Option (Char → Bool) :=
  let isPrinted (c : Char) : Bool := ' ' < c && c ≤ '~'
  match String.ofList name with
  | "alnum" => some Char.isAlphanum
  | "alpha" => some Char.isAlpha
  | "blank" => some fun c => c = ' ' || c = '\t'
  | "cntrl" => some fun c => c < ' ' || c = '\x7f'
  | "digit" => some Char.isDigit
  | "graph" => some isPrinted
  | "lower" => some Char.isLower
  | "print" => some fun c => c = ' ' || isPrinted c
  | "punct" => some fun c => isPrinted c && !c.isAlphanum
  | "space" => some fun c => c = ' ' || ('\t' ≤ c && c ≤ '\r')
  | "upper" => some Char.isUpper
  | "xdigit" => some fun c => c.isDigit || ('a' ≤ c && c ≤ 'f') || ('A' ≤ c && c ≤ 'F')
  | _ => none

/-- Reads the name of a class, after the bracket before it: whether a character is in the class,
and what is left. -/
def inClass? (c : Char) : List Char → Option (Bool × List Char)
  | ':' :: rest =>
    let name := rest.takeWhile (· ≠ ':')
    match rest.drop name.length with
    | ':' :: ']' :: rest => (class? name).map fun holds => (holds c, rest)
    | _ => none
  | _ => none

/-- Looks for a character between brackets, of which the first character is given apart: whether it
is there, and what is left after the closing bracket. Without that the bracket stands for itself. -/
def inBrackets? (c : Char) : Nat → Bool → List Char → Option (Bool × List Char)
  | 0, _, _ => none
  | _ + 1, _, [] => none
  | fuel + 1, found, d :: rest =>
    let goOn (found : Bool) : List Char → Option (Bool × List Char)
      | ']' :: rest => some (found, rest)
      | rest => inBrackets? c fuel found rest
    let single (d : Char) (rest : List Char) : Option (Bool × List Char) :=
      match rest with
      | '-' :: ']' :: _ => goOn (found || c = d) rest
      | '-' :: '\\' :: e :: rest => goOn (found || (d ≤ c && c ≤ e)) rest
      | ['-'] => none
      | '-' :: e :: rest => goOn (found || (d ≤ c && c ≤ e)) rest
      | rest => goOn (found || c = d) rest
    if d = '[' then
      match inClass? c rest with
      | some (holds, rest) => goOn (found || holds) rest
      | none => single d rest
    else if d = '\\' then
      match rest with
      | [] => none
      | e :: rest => single e rest
    else single d rest

/-- Some end of a text is as asked for. -/
def anyEnd (holds : List Char → Bool) : List Char → Bool
  | [] => holds []
  | c :: cs => holds (c :: cs) || anyEnd holds cs

/-- The text matches a pattern, of which the length is less than the first argument. -/
def matchesFrom : Nat → List Char → List Char → Bool
  | 0, _, _ => false
  | _ + 1, [], text => text.isEmpty
  | fuel + 1, p :: pattern, text =>
    let same (p : Char) (pattern : List Char) : Bool :=
      match text with
      | c :: text => c = p && matchesFrom fuel pattern text
      | [] => false
    match p with
    | '\\' =>
      match pattern with
      | q :: pattern => same q pattern
      | [] => same p []
    | '?' => !text.isEmpty && matchesFrom fuel pattern text.tail
    | '*' =>
      let pattern := pattern.dropWhile (· = '*')
      match pattern with
      | [] => true
      | _ => anyEnd (matchesFrom fuel pattern) text
    | '[' =>
      let (inverted, inside) :=
        match pattern with
        | '!' :: rest => (true, rest)
        | rest => (false, rest)
      match text with
      | [] => false
      | c :: rest =>
        match inBrackets? c (inside.length + 1) false inside with
        | some (found, pattern) => found != inverted && matchesFrom fuel pattern rest
        | none => same p pattern
    | p => same p pattern

/-- The text matches the pattern. -/
def isMatch (pattern text : List Char) : Bool := matchesFrom (pattern.length + 1) pattern text

end ContractBindings.Text.Pattern
