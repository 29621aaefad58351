import ContractBindings.Shell.Arithmetic
import ContractBindings.Text.Escape
import ContractBindings.Text.Format

/-!
# Printing

The commands `echo` and `printf`. A format is used over and over as long as it takes arguments and
there are any.
-/

namespace ContractBindings.Shell

open Text (Format Quantity)

/-- Says the arguments, without a line end after `-n`. -/
def Sh.echo (args : List String) : Sh Nat := do
  let (silent, args) : Bool × List String :=
    match args with
    | "-n" :: rest => (true, rest)
    | args => (false, args)
  let (text, ended) := Text.unescape (String.intercalate " " args)
  Sh.say (if silent || ended then text else text ++ "\n")
  return 0

namespace Print

/-- The state of printing by a format. -/
structure State where
  /-- The arguments that are left. -/
  args : List String
  /-- Some argument has been taken. -/
  taken : Bool := false
  status : Nat := 0
  /-- An argument has ended everything. -/
  ended : Bool := false

/-- The steps of printing. -/
abbrev Printer := StateT State Sh

/-- Takes the next argument. -/
def next? : Printer (Option String) := do
  let s ← get
  match s.args with
  | [] => return none
  | a :: rest =>
    set { s with args := rest, taken := true }
    return some a

/-- Complains about an argument. -/
def complain (text : String) : Printer Unit := do
  modify fun s => { s with status := 1 }
  Sh.warn text

/-- Complains about what could not be read of an argument. -/
def check (argument : String) (read : Bool) (far : Bool) (rest : List Char) : Printer Unit := do
  if !rest.isEmpty then
    if read then complain (argument ++ ": not completely converted")
    else complain (argument ++ ": expected numeric value")
  else if far then complain (argument ++ ": Numerical result out of range")

/-- The number of the character after a quote. -/
def quotedNumber? (argument : String) : Option Nat :=
  match argument.toList with
  | '"' :: rest | '\'' :: rest => some (rest.head?.elim 0 Char.toNat)
  | _ => none

/-- The next argument as an integer between bounds. -/
def integer (least greatest : Int) : Printer Int := do
  match ← next? with
  | none => return 0
  | some a =>
    match quotedNumber? a with
    | some n => return n
    | none =>
      match integer? true a.toList with
      | none =>
        check a false false a.toList
        return 0
      | some (n, rest) =>
        check a true (n < least || greatest < n) rest
        return max least (min n greatest)

/-- The next argument as an integer with a sign. -/
def signed : Printer Int := integer (-9223372036854775808) 9223372036854775807

/-- The next argument as an integer without a sign. -/
def natural : Printer Nat := do
  let n ← integer (-18446744073709551615) 18446744073709551615
  return (n % 18446744073709551616).toNat

/-- The next argument as a fractional number. -/
def fraction : Printer Quantity := do
  match ← next? with
  | none => return .finite ⟨false, .zero⟩
  | some a =>
    match quotedNumber? a with
    | some n => return .finite ⟨false, .ofRatio n 1⟩
    | none =>
      match Quantity.read? a.toList with
      | none =>
        check a false false a.toList
        return .finite ⟨false, .zero⟩
      | some (q, far, rest) =>
        check a true far rest
        return q

/-- A width or a precision, from digits or from an argument. -/
def measure (cs : List Char) : Printer (Int × List Char) := do
  match cs with
  | '*' :: rest => return (← signed, rest)
  | cs =>
    let (n, rest) := digitsOf 10 cs
    return (n, rest)

/-- Says the next argument as a letter asks for it. -/
def convert (f : Format) (letter : Char) : Printer Bool := do
  match letter with
  | 's' => Sh.say (f.text ((← next?).getD ""))
  | 'c' =>
    let c := (← next?).elim '\x00' fun a => a.toList.head?.getD '\x00'
    Sh.say ({ f with precision := none }.text (String.singleton c))
  | 'b' =>
    let (text, ended) := Text.unescape ((← next?).getD "")
    Sh.say (f.text text)
    if ended then modify fun s => { s with ended := true }
  | 'd' | 'i' => Sh.say (f.integer (← signed))
  | 'u' => Sh.say ({ f with signed := false, blank := false }.natural 10 false (← natural))
  | 'o' => Sh.say (f.natural 8 false (← natural))
  | 'x' => Sh.say (f.natural 16 false (← natural))
  | 'X' => Sh.say (f.natural 16 true (← natural))
  | 'e' | 'E' | 'f' | 'F' | 'g' | 'G' => Sh.say (f.fraction letter (← fraction))
  | _ => return false
  return true

/-- Says what a format begins with a per cent sign, and tells what is left of the format. -/
def directive (cs : List Char) : Printer (List Char) := do
  let flags := cs.takeWhile fun c => c ∈ ['#', '-', '+', ' ', '0']
  let (width, rest) ← measure (cs.drop flags.length)
  let (precision, rest) ←
    match rest with
    | '.' :: rest => do
      let (n, rest) ← measure rest
      pure (if n < 0 then none else some n.toNat, rest)
    | rest => pure (none, rest)
  match rest with
  | [] => Sh.fault "missing format character"
  | letter :: rest =>
    let f : Format := {
      left := flags.contains '-' || width < 0
      signed := flags.contains '+'
      blank := flags.contains ' '
      zeros := flags.contains '0'
      full := flags.contains '#'
      width := width.natAbs
      precision }
    if ← convert f letter then return rest
    let start := String.ofList (cs.take (cs.length - rest.length))
    Sh.fault ("%" ++ start ++ ": invalid directive")

/-- Says what a format says. -/
def once : Nat → List Char → Printer Unit
  | 0, _ => return
  | fuel + 1, cs => do
    match cs with
    | [] => return
    | '\\' :: rest =>
      let (c, rest) := Text.escape rest
      Sh.say (String.singleton c)
      once fuel rest
    | '%' :: '%' :: rest =>
      Sh.say "%"
      once fuel rest
    | '%' :: rest =>
      let rest ← directive rest
      if !(← get).ended then once fuel rest
    | c :: rest =>
      Sh.say (String.singleton c)
      once fuel rest

/-- Uses a format until no argument is left. -/
def all (format : List Char) : Nat → Printer Unit
  | 0 => return
  | fuel + 1 => do
    once (format.length + 1) format
    let s ← get
    if s.taken && !s.args.isEmpty && !s.ended then all format fuel

end Print

/-- Says arguments by a format. -/
def Sh.print (args : List String) : Sh Nat := do
  match args with
  | [] => Sh.fault "usage: printf format [arg ...]"
  | format :: args =>
    let (_, s) ← (Print.all format.toList (args.length + 1)).run { args }
    return s.status

end ContractBindings.Shell
