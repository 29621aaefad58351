/-!
# Modes

Who may do what with a file, in octal digits or in clauses such as `u+x`.
-/

namespace ContractBindings.Utility

/-- A clause of a mode: for whom, what is done, and with which bits. -/
structure ModeClause where
  /-- The bits of those for whom it is; none if nobody is named. -/
  who : Nat
  operator : Char
  /-- The bits for everybody. -/
  bits : Nat
  /-- Execution for those who may execute, or enter a directory. -/
  executes : Bool := false

/-- A mode. -/
inductive Mode where
  | bits (n : Nat)
  | clauses (list : List ModeClause)

namespace Mode

/-- The bits of a letter for whom. -/
def whoBits (c : Char) : Nat :=
  match c with
  | 'u' => 0o4700
  | 'g' => 0o2070
  | 'o' => 0o1007
  | _ => 0o7777

/-- The bits of a letter for what, for everybody. -/
def whatBits? (c : Char) : Option Nat :=
  match c with
  | 'r' => some 0o444
  | 'w' => some 0o222
  | 'x' => some 0o111
  | 's' => some 0o6000
  | 't' => some 0o1000
  | 'X' => some 0
  | _ => none

/-- Reads the parts of a clause after those for whom it is. -/
def operations? (who : Nat) : Nat → List Char → Option (List ModeClause)
  | 0, _ => none
  | _ + 1, [] => some []
  | fuel + 1, operator :: rest =>
    if operator = '+' || operator = '-' || operator = '=' then
      let letters := rest.takeWhile fun c => (whatBits? c).isSome
      let bits := letters.foldl (fun n c => n ||| (whatBits? c).getD 0) 0
      (operations? who fuel (rest.drop letters.length)).map fun others =>
        { who, operator, bits, executes := letters.contains 'X' } :: others
    else none

/-- Reads a clause. -/
def clause? (cs : List Char) : Option (List ModeClause) :=
  let letters := cs.takeWhile fun c => c ∈ ['u', 'g', 'o', 'a']
  let rest := cs.drop letters.length
  if rest.isEmpty then none
  else operations? (letters.foldl (fun n c => n ||| whoBits c) 0) (rest.length + 1) rest

/-- Reads a mode. -/
def read? (text : String) : Option Mode :=
  let cs := text.toList
  if !cs.isEmpty && cs.all fun c => '0' ≤ c && c ≤ '7' then
    let n := cs.foldl (fun n c => n * 8 + (c.toNat - '0'.toNat)) 0
    if n ≤ 0o7777 then some (.bits n) else none
  else
    let parts := (text.splitOn ",").map fun s => clause? s.toList
    if parts.all (·.isSome) then some (.clauses (parts.flatMap (·.getD []))) else none

/-- The bits of a file after a clause. Where nobody is named, the mask takes bits away. -/
def applyClause (mask : Nat) (isDir : Bool) (old : Nat) (c : ModeClause) : Nat :=
  let executes := if c.executes && (isDir || old &&& 0o111 ≠ 0) then 0o111 else 0
  let all := c.bits ||| executes
  let whom := if c.who = 0 then 0o7777 else c.who
  let bits := all &&& whom
  let bits := if c.who = 0 then bits - (bits &&& mask) else bits
  match c.operator with
  | '+' => old ||| bits
  | '-' => old - (old &&& bits)
  | _ => (old - (old &&& (whom &&& 0o777))) ||| bits

/-- The bits of a file after a mode was applied to it. -/
def apply (mask : Nat) (isDir : Bool) (old : Nat) : Mode → Nat
  | bits n => n
  | clauses list => list.foldl (applyClause mask isDir) old

end Mode

end ContractBindings.Utility
