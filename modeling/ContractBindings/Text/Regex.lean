/-!
# Regular expressions

What an expression matches in a text of octets. Of all matches that begin at a place the longest one
counts, and of groups within it those that come first are as long as they can be.

* `Regex`: an expression.
* `Subject`: a text in which matches are sought.
* `Regex.ends`: the ways in which a match from a place can end, the longest first.
* `Regex.find?`: the first match from a place on.
-/

namespace ContractBindings.Text

/-- A set of characters: those in one of the ranges, or all others. -/
structure CharSet where
  ranges : List (Char × Char)
  negated : Bool := false
  deriving DecidableEq, Repr

/-- The character is in the set. -/
def CharSet.has (s : CharSet) (c : Char) : Bool :=
  (s.ranges.any fun r => r.1 ≤ c && c ≤ r.2) != s.negated

/-- A place between characters. -/
inductive Edge where
  | lineStart
  | lineEnd
  | textStart
  | textEnd
  | wordStart
  | wordEnd
  /-- The start or the end of a word. -/
  | word
  /-- Neither the start nor the end of a word. -/
  | noWord
  deriving DecidableEq, Repr

/-- A regular expression. -/
inductive Regex where
  /-- Matches the empty text. -/
  | empty
  | one (set : CharSet)
  | edge (edge : Edge)
  /-- Matches what a group has matched. -/
  | again (group : Nat)
  | group (number : Nat) (inner : Regex)
  | cat (first second : Regex)
  | alt (first second : Regex)
  /-- The inner expression, at least so many times, and at most so many times if there is a
  limit. -/
  | times (least : Nat) (most : Option Nat) (inner : Regex)
  deriving DecidableEq, Repr

/-- A text in which matches are sought. -/
structure Subject where
  text : Array Char
  ignoresCase : Bool := false
  /-- Lines within the text have starts and ends of their own. -/
  hasLines : Bool := false

/-- A way in which a match can go on: from a place, with groups from a place to a place. -/
structure Mark where
  spot : Nat
  groups : List (Nat × Nat × Nat) := []
  deriving DecidableEq, Repr

namespace Subject

/-- The character is part of a word. -/
def isWordAt (s : Subject) (i : Nat) : Bool :=
  match s.text[i]? with
  | some c => c.isAlphanum || c = '_'
  | none => false

/-- The place is an edge of a kind. -/
def isEdge (s : Subject) (i : Nat) (edge : Edge) : Bool :=
  let before := i ≠ 0 && s.isWordAt (i - 1)
  let after := s.isWordAt i
  match edge with
  | .textStart => i = 0
  | .textEnd => i = s.text.size
  | .lineStart => i = 0 || (s.hasLines && s.text[i - 1]? = some '\n')
  | .lineEnd => i = s.text.size || (s.hasLines && s.text[i]? = some '\n')
  | .wordStart => !before && after
  | .wordEnd => before && !after
  | .word => before != after
  | .noWord => before = after

/-- A letter in the other case. -/
def otherCase (c : Char) : Char := if c.isUpper then c.toLower else c.toUpper

/-- The character matches a set. -/
def takes (s : Subject) (set : CharSet) (c : Char) : Bool :=
  if s.ignoresCase then
    (set.ranges.any fun r => (r.1 ≤ c && c ≤ r.2) ||
      (r.1 ≤ otherCase c && otherCase c ≤ r.2)) != set.negated
  else set.has c

/-- Two characters are the same. -/
def alike (s : Subject) (a b : Char) : Bool := a = b || (s.ignoresCase && otherCase a = b)

/-- The text from a place holds again what stands between two other places. -/
def repeats (s : Subject) (first last spot : Nat) : Bool :=
  (List.range (last - first)).all fun k =>
    match s.text[first + k]?, s.text[spot + k]? with
    | some a, some b => s.alike a b
    | _, _ => false

/-- How many characters from a place on match a set, with a bound. -/
def run (s : Subject) (set : CharSet) : Nat → Nat → Nat
  | 0, _ => 0
  | bound + 1, spot =>
    match s.text[spot]? with
    | some c => if s.takes set c then run s set bound (spot + 1) + 1 else 0
    | none => 0

/-- The marks in order, the last place first, with the first mark for each place. -/
def settle (s : Subject) (marks : List Mark) : List Mark :=
  match marks with
  | [] => []
  | [m] => [m]
  | marks =>
    let vacant : Array (Option Mark) := Array.replicate (s.text.size + 1) none
    let found := marks.foldl (fun found m =>
      if (found[m.spot]?.getD none).isSome then found
      else found.setIfInBounds m.spot (some m)) vacant
    found.toList.reverse.filterMap id

/-- The marks in order, the last place first, each once. -/
def settleAll (marks : List Mark) : List Mark :=
  marks.eraseDups.mergeSort fun a b => decide (b.spot ≤ a.spot)

end Subject

namespace Regex

/-- The expression asks again for what a group has matched. -/
def looksBack : Regex → Bool
  | .again _ => true
  | .group _ r | .times _ _ r => r.looksBack
  | .cat a b | .alt a b => a.looksBack || b.looksBack
  | _ => false

/-- The number of groups. -/
def groupCount : Regex → Nat
  | .group _ r => r.groupCount + 1
  | .times _ _ r => r.groupCount
  | .cat a b | .alt a b => a.groupCount + b.groupCount
  | _ => 0

/-- Takes steps that add marks to those that are there, as long as there are new ones. -/
def reach (step : Mark → List Mark) (settle : List Mark → List Mark) :
    Nat → List Mark → List Mark → List Mark
  | 0, _, found => found
  | rounds + 1, front, found =>
    let known := found.map (·.spot)
    let next := (settle (front.flatMap step)).filter fun m => !known.contains m.spot
    if next.isEmpty then found else reach step settle rounds next (found ++ next)

/-- The marks after a number of steps. -/
def steps (step : Mark → List Mark) (settle : List Mark → List Mark) : Nat → List Mark → List Mark
  | 0, marks => marks
  | count + 1, marks => steps step settle count (settle (marks.flatMap step))

/-- The ways in which a match from a mark can end, the last place first. -/
def ends (s : Subject) (settle : List Mark → List Mark) : Regex → Mark → List Mark
  | .empty, m => [m]
  | .one set, m =>
    match s.text[m.spot]? with
    | some c => if s.takes set c then [{ m with spot := m.spot + 1 }] else []
    | none => []
  | .edge kind, m => if s.isEdge m.spot kind then [m] else []
  | .again number, m =>
    match m.groups.lookup number with
    | some (first, last) =>
      if s.repeats first last m.spot then [{ m with spot := m.spot + (last - first) }] else []
    | none => []
  | .group number inner, m =>
    (ends s settle inner m).map fun e =>
      { e with groups := (number, m.spot, e.spot) :: e.groups.filter (·.1 != number) }
  | .cat first second, m => settle ((ends s settle first m).flatMap (ends s settle second))
  | .alt first second, m => settle (ends s settle first m ++ ends s settle second m)
  | .times least most (.one set), m =>
    let bound := match most with
      | some most => most
      | none => s.text.size
    let count := s.run set bound m.spot
    if count < least then []
    else (List.range (count - least + 1)).map fun k => { m with spot := m.spot + count - k }
  | .times least most inner, m =>
    let base := steps (ends s settle inner) settle least [m]
    let rounds := match most with
      | some most => most - least
      | none => s.text.size + 1
    settle (reach (ends s settle inner) settle rounds base base)

/-- What a match is: where it starts, and its end with the groups. -/
structure Found where
  first : Nat
  last : Nat
  groups : List (Nat × Nat × Nat)
  deriving DecidableEq, Repr

/-- The longest match that starts at a place. -/
def matchAt? (s : Subject) (r : Regex) (spot : Nat) : Option Found :=
  let settle := if r.looksBack then Subject.settleAll else s.settle
  (r.ends s settle { spot }).head?.map fun m =>
    { first := spot, last := m.spot, groups := m.groups }

/-- The first match that starts at one of a number of places in a row. -/
def findWithin? (s : Subject) (r : Regex) : Nat → Nat → Option Found
  | 0, _ => none
  | places + 1, spot =>
    match r.matchAt? s spot with
    | some f => some f
    | none => findWithin? s r places (spot + 1)

/-- The first match that starts at a place or after it. -/
def find? (s : Subject) (r : Regex) (spot : Nat := 0) : Option Found :=
  r.findWithin? s (s.text.size + 1 - spot) spot

end Regex

/-- The text between two places. -/
def Subject.part (s : Subject) (first last : Nat) : String :=
  String.ofList (s.text.extract first last).toList

/-- The text of a group of a match; the group zero is all of it. -/
def Regex.Found.group (s : Subject) (f : Regex.Found) (number : Nat) : String :=
  if number = 0 then s.part f.first f.last
  else
    match f.groups.lookup number with
    | some (first, last) => s.part first last
    | none => ""

end ContractBindings.Text
