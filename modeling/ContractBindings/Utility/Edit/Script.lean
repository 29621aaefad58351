import ContractBindings.Text.Regex

/-!
# Edit scripts

What `sed` carries out: commands that apply to the lines which an address selects, with one line at
a time in the pattern space and another text on hold.
-/

namespace ContractBindings.Utility.Edit

open Text (Regex)

/-- A pattern in a script. Without an expression it is the one that was used last. -/
structure Pattern where
  regex : Option Regex
  ignoresCase : Bool := false
  hasLines : Bool := false

/-- What selects single lines. -/
inductive Address where
  | line (number : Nat)
  /-- Every so many lines from one on. -/
  | step (first step : Nat)
  | last
  | pattern (pattern : Pattern)

/-- Where a range of lines ends. -/
inductive RangeEnd where
  | at (address : Address)
  /-- So many lines after its start. -/
  | more (count : Nat)
  /-- At the next multiple of a number. -/
  | multiple (number : Nat)

/-- The lines to which a command applies. -/
structure Selection where
  first : Option Address := none
  last : Option RangeEnd := none
  negated : Bool := false

/-- A change of case in a replacement. -/
inductive CaseShift where
  | upper
  | lower
  | stop
  | nextUpper
  | nextLower
  deriving DecidableEq

/-- A part of a replacement. -/
inductive Piece where
  | text (text : String)
  | group (number : Nat)
  | shift (shift : CaseShift)

/-- A replacement of what a pattern matches. -/
structure Substitution where
  pattern : Pattern
  pieces : List Piece
  /-- The match with which it begins. -/
  which : Nat := 1
  all : Bool := false
  prints : Bool := false
  /-- The changed line is written to a file. -/
  file : Option String := none

/-- What a command does. -/
inductive Action where
  /-- The start of a block, with the place after its end. -/
  | block (after : Nat)
  | nothing
  | sayNumber
  | append (text : String)
  | insert (text : String)
  | change (text : String)
  | branch (label : String)
  | branchIf (label : String)
  | branchUnless (label : String)
  | delete
  | deleteFirst
  | get
  | getMore
  | hold
  | holdMore
  | exchange
  | print
  | printFirst
  | next
  | nextMore
  | quit (status : Nat)
  | quitSilently (status : Nat)
  | readFile (path : String)
  | readLine (path : String)
  | write (path : String)
  | writeFirst (path : String)
  | showLine (width : Option Nat)
  | sayName
  | clear
  | substitute (substitution : Substitution)
  | transliterate (pairs : List (Char × Char))

/-- A command. -/
structure Command where
  selection : Selection
  action : Action

/-- A script. -/
structure Script where
  commands : Array Command := #[]
  /-- Labels with the places to which they lead. -/
  labels : List (String × Nat) := []
  /-- Lines are said only when a command says so. -/
  silent : Bool := false

end ContractBindings.Utility.Edit
