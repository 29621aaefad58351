import ContractBindings.Text.Regex

/-!
# Reading regular expressions

The written forms of regular expressions: in the basic one groups, bounds and alternatives have
backslashes, and in the extended one they have none.
-/

namespace ContractBindings.Text

/-- Why a text is no regular expression. -/
inductive RegexFault where
  | malformed
  | badCollation
  | badClass
  | trailingBackslash
  | badReference
  | unmatchedBracket
  | unmatchedOpen
  | unmatchedClose
  | unmatchedBrace
  | badBounds
  | badRange
  | nothingToRepeat
  | tooBig
  deriving DecidableEq, Repr

/-- What is said about a text that is no regular expression. -/
def RegexFault.text : RegexFault → String
  | malformed => "Invalid regular expression"
  | badCollation => "Invalid collation character"
  | badClass => "Invalid character class name"
  | trailingBackslash => "Trailing backslash"
  | badReference => "Invalid back reference"
  | unmatchedBracket => "Unmatched [, [^, [:, [., or [="
  | unmatchedOpen => "Unmatched ( or \\("
  | unmatchedClose => "Unmatched ) or \\)"
  | unmatchedBrace => "Unmatched \\\x7b"
  | badBounds => "Invalid content of \\\x7b\\\x7d"
  | badRange => "Invalid range end"
  | nothingToRepeat => "Invalid preceding regular expression"
  | tooBig => "Regular expression too big"

/-- A written form of regular expressions. -/
structure RegexForm where
  extended : Bool := false
  /-- What makes no sense stands for itself, and an operator without an operand has an empty one. -/
  lenient : Bool := false
  /-- Letters after backslashes stand for control characters. -/
  escapes : Bool := false

/-- What has been read of an expression. -/
structure RegexReading where
  rest : List Char
  /-- The number of groups that were opened. -/
  groups : Nat := 0
  /-- The groups that were closed. -/
  closed : List Nat := []
  /-- The operators that had no operand. -/
  idle : List String := []

/-- Steps in reading an expression. -/
abbrev ReadRegex := StateT RegexReading (Except RegexFault)

namespace ReadRegex

/-- What is left to read. -/
def rest : ReadRegex (List Char) := return (← get).rest

/-- Goes on with other text. -/
def goOn (cs : List Char) : ReadRegex Unit := modify fun s => { s with rest := cs }

/-- Reads one character, if it is the next. -/
def next (c : Char) : ReadRegex Bool := do
  match ← rest with
  | d :: cs =>
    if c = d then
      goOn cs
      return true
    else return false
  | [] => return false

/-! ## Sets -/

/-- The ranges of a class of characters. -/
def classRanges? (name : String) : Option (List (Char × Char)) :=
  match name with
  | "alpha" => some [('a', 'z'), ('A', 'Z')]
  | "digit" => some [('0', '9')]
  | "alnum" => some [('a', 'z'), ('A', 'Z'), ('0', '9')]
  | "upper" => some [('A', 'Z')]
  | "lower" => some [('a', 'z')]
  | "space" => some [('\t', '\r'), (' ', ' ')]
  | "blank" => some [('\t', '\t'), (' ', ' ')]
  | "punct" => some [('!', '/'), (':', '@'), ('[', '\x60'), ('\x7b', '~')]
  | "print" => some [(' ', '~')]
  | "graph" => some [('!', '~')]
  | "cntrl" => some [('\x00', '\x1f'), ('\x7f', '\x7f')]
  | "xdigit" => some [('0', '9'), ('a', 'f'), ('A', 'F')]
  | _ => none

/-- The characters of words. -/
def wordSet : CharSet := { ranges := [('a', 'z'), ('A', 'Z'), ('0', '9'), ('_', '_')] }

/-- Blank characters. -/
def blankSet : CharSet := { ranges := [('\t', '\r'), (' ', ' ')] }

/-- The control character that a letter stands for after a backslash. -/
def controlOf? (c : Char) : Option Char :=
  match c with
  | 'a' => some '\x07'
  | 'f' => some '\x0c'
  | 'n' => some '\n'
  | 'r' => some '\r'
  | 't' => some '\t'
  | 'v' => some '\x0b'
  | _ => none

/-- A part of a set: one character, which can begin or end a range, or a class. -/
inductive SetItem where
  | single (c : Char)
  | several (ranges : List (Char × Char))

/-- Reads the name between `[:` and `:]`, or the like. -/
def delimited (mark : Char) : List Char → Option (String × List Char)
  | c :: d :: rest =>
    if c = mark && d = ']' then some ("", rest)
    else (delimited mark (d :: rest)).map fun (name, after) => (String.singleton c ++ name, after)
  | _ => none

/-- Reads one item of a set. -/
def setItem (form : RegexForm) (takesHyphen : Bool) : ReadRegex SetItem := do
  match ← rest with
  | '[' :: mark :: cs =>
    if mark = ':' || mark = '.' || mark = '=' then
      match delimited mark cs with
      | none => throw .unmatchedBracket
      | some (name, after) =>
        goOn after
        if mark = ':' then
          match classRanges? name with
          | some ranges => return .several ranges
          | none => throw .badClass
        else
          match name.toList with
          | [c] => return if mark = '.' then .single c else .several [(c, c)]
          | _ => throw .badCollation
    else
      goOn (mark :: cs)
      return .single '['
  | '\\' :: c :: cs =>
    match controlOf? c with
    | some d =>
      if form.escapes then
        goOn cs
        return .single d
      else
        goOn (c :: cs)
        return .single '\\'
    | none =>
      goOn (c :: cs)
      return .single '\\'
  | '-' :: cs =>
    goOn cs
    if !takesHyphen && cs.head? ≠ some ']' then throw .badRange
    return .single '-'
  | c :: cs =>
    goOn cs
    return .single c
  | [] => throw .unmatchedBracket

/-- Reads the items of a set up to its end. -/
def setItems (form : RegexForm) : Nat → Bool → ReadRegex (List (Char × Char))
  | 0, _ => return []
  | fuel + 1, isFirst => do
    let cs ← rest
    if !isFirst && cs.head? = some ']' then
      goOn cs.tail
      return []
    else
      let first ← setItem form isFirst
      let ranges : List (Char × Char) ←
        match ← rest with
        | [] => throw .unmatchedBracket
        | ['-'] => throw .unmatchedBracket
        | '-' :: d :: cs =>
          if d = ']' then
            match first with
            | .single c => pure [(c, c)]
            | .several ranges => pure ranges
          else
            goOn (d :: cs)
            let last ← setItem form true
            match first, last with
            | .single a, .single b =>
              if b < a then throw .badRange else pure [(a, b)]
            | _, _ => throw .badRange
        | _ =>
          match first with
          | .single c => pure [(c, c)]
          | .several ranges => pure ranges
      return ranges ++ (← setItems form fuel false)

/-- Reads a set after its opening bracket. -/
def set (form : RegexForm) : ReadRegex Regex := do
  let negated ← next '^'
  let cs ← rest
  if cs.isEmpty then throw .malformed
  let ranges ← setItems form (cs.length + 1) true
  return .one { ranges, negated }

/-! ## Operators -/

/-- An operator after an expression. -/
inductive Repeater where
  | star
  | plus
  | question
  | brace

/-- The operator with which the text goes on, and what comes after it. -/
def repeater? (form : RegexForm) (cs : List Char) : Option (Repeater × List Char) :=
  match form.extended, cs with
  | _, '*' :: rest => some (.star, rest)
  | true, '+' :: rest => some (.plus, rest)
  | true, '?' :: rest => some (.question, rest)
  | true, '\x7b' :: rest => some (.brace, rest)
  | false, '\\' :: '+' :: rest => some (.plus, rest)
  | false, '\\' :: '?' :: rest => some (.question, rest)
  | false, '\\' :: '\x7b' :: rest => some (.brace, rest)
  | _, _ => none

/-- A bound, or what stands where one should be. -/
inductive Bound where
  | number (n : Nat)
  | absent
  | broken

/-- Takes the end of bounds off a text. -/
def closeBrace? (form : RegexForm) (cs : List Char) : Option (List Char) :=
  match form.extended, cs with
  | true, '\x7d' :: rest => some rest
  | false, '\\' :: '\x7d' :: rest => some rest
  | _, _ => none

/-- Reads a bound. -/
def bound (form : RegexForm) (cs : List Char) : Bound × List Char :=
  let digits := cs.takeWhile Char.isDigit
  let rest := cs.drop digits.length
  let ends := rest.head? = some ',' || (closeBrace? form rest).isSome
  if !ends then (.broken, rest)
  else if digits.isEmpty then (.absent, rest)
  else (.number (digits.foldl (fun n c => min 32768 (n * 10 + (c.toNat - '0'.toNat))) 0), rest)

/-- Reads bounds after their opening brace. There are none if they make no sense and need not. -/
def bounds? (form : RegexForm) (cs : List Char) :
    Except RegexFault (Option (Nat × Option Nat × List Char)) :=
  let broken (rest : List Char) : Except RegexFault (Option (Nat × Option Nat × List Char)) :=
    if form.lenient && form.extended then .ok none
    else .error (if rest.isEmpty then .unmatchedBrace else .badBounds)
  let close (least : Nat) (most : Option Nat) (rest : List Char) :
      Except RegexFault (Option (Nat × Option Nat × List Char)) :=
    match closeBrace? form rest with
    | none => .error .badBounds
    | some rest =>
      if most.any (· < least) then .error .badBounds
      else if 32767 < most.getD least then .error .tooBig
      else .ok (some (least, most, rest))
  match bound form cs with
  | (.broken, rest) => broken rest
  | (first, ',' :: rest) =>
    let least :=
      match first with
      | .number n => n
      | _ => 0
    match bound form rest with
    | (.broken, rest) => broken rest
    | (.absent, rest) => close least none rest
    | (.number n, rest) => close least (some n) rest
  | (.number n, rest) => close n (some n) rest
  | (_, _) => .error .badBounds

/-- Reads the operators after an expression. -/
def repeated (form : RegexForm) : Nat → Bool → Regex → ReadRegex Regex
  | 0, _, r => return r
  | fuel + 1, isFirst, r => do
    match repeater? form (← rest) with
    | none => return r
    | some (op, cs) =>
      let again := !isFirst && !form.extended && !form.lenient
      match op with
      | .star =>
        if again then throw .nothingToRepeat
        goOn cs
        repeated form fuel false (.times 0 none r)
      | .plus =>
        goOn cs
        repeated form fuel false (.times 1 none r)
      | .question =>
        goOn cs
        repeated form fuel false (.times 0 (some 1) r)
      | .brace =>
        if again then throw .nothingToRepeat
        match bounds? form cs with
        | .error fault => throw fault
        | .ok none =>
          goOn cs
          return .cat r (.one { ranges := [('\x7b', '\x7b')] })
        | .ok (some (least, most, cs)) =>
          goOn cs
          repeated form fuel false (.times least most r)

/-! ## Expressions -/

/-- What an expression is followed by, where a branch ends. -/
inductive Stop where
  | none
  | bar (rest : List Char)
  | close (rest : List Char)

/-- Whether a branch ends here. -/
def stop (form : RegexForm) (cs : List Char) : Stop :=
  match form.extended, cs with
  | true, '|' :: rest => .bar rest
  | true, ')' :: rest => .close rest
  | false, '\\' :: '|' :: rest => .bar rest
  | false, '\\' :: ')' :: rest => .close rest
  | _, _ => .none

/-- What an escaped character means, if it does not stand for itself. -/
def escaped? (form : RegexForm) (c : Char) : Option Regex :=
  match c with
  | 'w' => some (.one wordSet)
  | 'W' => some (.one { wordSet with negated := true })
  | 's' => some (.one blankSet)
  | 'S' => some (.one { blankSet with negated := true })
  | 'b' => some (.edge .word)
  | 'B' => some (.edge .noWord)
  | '<' => some (.edge .wordStart)
  | '>' => some (.edge .wordEnd)
  | '\x60' => some (.edge .textStart)
  | '\'' => some (.edge .textEnd)
  | c =>
    if form.escapes then (controlOf? c).map fun d => .one { ranges := [(d, d)] } else none

/-- The expression for one character. -/
def single (c : Char) : Regex := .one { ranges := [(c, c)] }

/-- An edge takes no operator after it. -/
def isEdge : Regex → Bool
  | .edge _ => true
  | _ => false

/-- A caret stands for the start of a line here. -/
def caretIsEdge (form : RegexForm) (atStart : Bool) : Bool := form.extended || atStart

/-- A dollar sign stands for the end of a line here. -/
def dollarIsEdge (form : RegexForm) (after : List Char) : Bool :=
  form.extended || after.isEmpty ||
    match stop form after with
    | .none => false
    | _ => true

/-- What a text says that begins no group and is no operator. -/
def plain (form : RegexForm) (atStart : Bool) : ReadRegex Regex := do
  match ← rest with
  | [] => return .empty
  | ['\\'] => throw .trailingBackslash
  | '\\' :: c :: cs =>
    goOn cs
    if c.isDigit && c ≠ '0' then
      let number := c.toNat - '0'.toNat
      if (← get).closed.contains number then return .again number else throw .badReference
    else return (escaped? form c).getD (single c)
  | '.' :: cs =>
    goOn cs
    return .one { ranges := [], negated := true }
  | '[' :: cs =>
    goOn cs
    set form
  | '^' :: cs =>
    goOn cs
    return if caretIsEdge form atStart then .edge .lineStart else single '^'
  | '$' :: cs =>
    goOn cs
    return if dollarIsEdge form cs then .edge .lineEnd else single '$'
  | c :: cs =>
    goOn cs
    return single c

/-- Takes the start of a group off a text. -/
def openGroup? (form : RegexForm) (cs : List Char) : Option (List Char) :=
  match form.extended, cs with
  | true, '(' :: rest => some rest
  | false, '\\' :: '(' :: rest => some rest
  | _, _ => none

/-- Reads an operator at the start of a branch, where it has nothing to repeat. -/
def idleRepeater (form : RegexForm) : ReadRegex (Option Regex) := do
  let cs ← rest
  match repeater? form cs with
  | none => return none
  | some (op, after) =>
    if form.extended then
      if !form.lenient then throw .nothingToRepeat
      let name :=
        match op with
        | .star => "*"
        | .plus => "+"
        | .question => "?"
        | .brace => "\x7b...\x7d"
      match op, bounds? form after with
      | .brace, .ok (some _) | .star, _ | .plus, _ | .question, _ =>
        modify fun s => { s with idle := s.idle ++ [name] }
        return some (← repeated form 1 true .empty)
      | _, _ =>
        goOn after
        return some (single '\x7b')
    else
      match op with
      | .brace =>
        if !form.lenient then throw .nothingToRepeat
        goOn after
        return some (single '\x7b')
      | .star =>
        goOn after
        return some (single '*')
      | .plus =>
        goOn after
        return some (single '+')
      | .question =>
        goOn after
        return some (single '?')

mutual

/-- Reads alternatives, in a group or not. -/
def alternatives (form : RegexForm) (inGroup : Bool) : Nat → ReadRegex Regex
  | 0 => return .empty
  | fuel + 1 => do
    let first ← branch form inGroup fuel true .empty
    match stop form (← rest) with
    | .bar cs =>
      goOn cs
      return .alt first (← alternatives form inGroup fuel)
    | _ => return first

/-- Reads a branch, after what has been read of it. -/
def branch (form : RegexForm) (inGroup : Bool) : Nat → Bool → Regex → ReadRegex Regex
  | 0, _, sofar => return sofar
  | fuel + 1, atStart, sofar => do
    let cs ← rest
    let goes (r : Regex) : Regex := if sofar = .empty then r else .cat sofar r
    match stop form cs with
    | .bar _ => return sofar
    | .close after =>
      if inGroup then return sofar
      else if form.extended && form.lenient then
        goOn after
        let r ← repeated form (after.length + 1) true (single ')')
        branch form inGroup fuel false (goes r)
      else throw .unmatchedClose
    | .none =>
      if cs.isEmpty then return sofar
      else
        let idle ← if atStart then idleRepeater form else pure none
        match idle with
        | some r =>
          let r ← repeated form (cs.length + 1) true r
          branch form inGroup fuel false (goes r)
        | none =>
          let r ← atom form atStart fuel
          if isEdge r then branch form inGroup fuel true (goes r)
          else
            let r ← repeated form (cs.length + 1) true r
            branch form inGroup fuel false (goes r)

/-- Reads a group, or what takes no more than a character. -/
def atom (form : RegexForm) (atStart : Bool) : Nat → ReadRegex Regex
  | 0 => return .empty
  | fuel + 1 => do
    match openGroup? form (← rest) with
    | none => plain form atStart
    | some cs =>
      goOn cs
      let number := (← get).groups + 1
      modify fun s => { s with groups := number }
      let inner ← alternatives form true fuel
      match stop form (← rest) with
      | .close cs =>
        goOn cs
        modify fun s => { s with closed := number :: s.closed }
        return .group number inner
      | _ => throw .unmatchedOpen

end

end ReadRegex

/-- Reads a regular expression. The second part of the result are operators without operands. -/
def Regex.read (form : RegexForm) (text : String) : Except RegexFault (Regex × List String) :=
  let cs := text.toList
  match (ReadRegex.alternatives form false (3 * cs.length + 3)).run { rest := cs } with
  | .ok (r, reading) => .ok (r, reading.idle)
  | .error fault => .error fault

end ContractBindings.Text
