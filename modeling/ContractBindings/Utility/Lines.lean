import ContractBindings.Utility.Arguments

/-!
# Inputs and lines

What utilities read: the input of the program or a file, cut into lines.
-/

namespace ContractBindings.Utility

open Process

/-- Reads a file, or the input of the program for a dash. -/
def readInput (path : String) : Act (Except Disk.Fault String) :=
  if path = "-" then Act.readAll 0 else Act.readFile path

/-- The operands, or a dash where there are none. -/
def inputsOf (a : Arguments) : List String := if a.operands.isEmpty then ["-"] else a.operands

/-- Cuts a text into lines, each with its line end. -/
def linesOf (text : String) : List String :=
  let rec cut : List Char → List Char → List String
    | [], [] => []
    | current, [] => [String.ofList current.reverse]
    | current, c :: cs =>
      if c = '\n' then String.ofList ('\n' :: current).reverse :: cut [] cs
      else cut (c :: current) cs
  cut [] text.toList

/-- A line without its line end. -/
def chomp (line : String) : String :=
  match line.toList.getLast? with
  | some '\n' => String.ofList line.toList.dropLast
  | _ => line

/-- A line with a line end. -/
def ended (line : String) : String := if line.endsWith "\n" then line else line ++ "\n"

/-- The lines of a text without their line ends. -/
def plainLines (text : String) : List String := (linesOf text).map chomp

/-- Does something with each input. One that cannot be read is complained about. -/
def forInputs (c : Call) (paths : List String) (complaint : String → Disk.Fault → String)
    (one : String → String → Act Nat) (status : Nat := 1) : Act Nat :=
  forEach (fun path => do
    match ← readInput path with
    | .ok text => one path text
    | .error fault =>
      c.complain (complaint path fault)
      return status) paths

/-- The plain complaint about an input. -/
def inputComplaint (path : String) (fault : Disk.Fault) : String :=
  shellText path ++ ": " ++ fault.reason

/-- A number with a unit. -/
def amount? (text : String) : Option Nat :=
  let cs := text.toList
  let digits := cs.takeWhile Char.isDigit
  let unit? : Option Nat :=
    match String.ofList (cs.drop digits.length) with
    | "" => some 1
    | "b" => some 512
    | "kB" => some 1000
    | "k" | "K" | "KiB" => some 1024
    | "MB" => some 1000000
    | "M" | "MiB" => some 1048576
    | "GB" => some 1000000000
    | "G" | "GiB" => some 1073741824
    | _ => none
  match natural? (String.ofList digits), unit? with
  | some n, some unit => some (n * unit)
  | none, some unit => if unit ≠ 1 && digits.isEmpty then some unit else none
  | _, none => none

/-- A text with blanks before it, up to a width. -/
def padded (width : Nat) (text : String) : String :=
  String.ofList (List.replicate (width - text.length) ' ') ++ text

end ContractBindings.Utility
