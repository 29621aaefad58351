import ContractBindings.Disk.Change
import ContractBindings.Log.Entry

/-!
# Compilers

A compiler is known by what it does to a disk and what it says about that. It may do something else
at each call. `Compiler.scripted` is one whose calls are laid down in advance.
-/

namespace ContractBindings.Compile

open Extraction (CompilationFailure)

/-- What a call of a compiler comes to. -/
structure Compilation where
  result : Except CompilationFailure Unit
  /-- The disk as the compiler leaves it, also when it fails. -/
  disk : Disk
  log : List Log.Entry := []

/-- What a compiler does at each call, given the number of calls before it. -/
def Compiler := Nat → Disk → Compilation

/-- A call that is laid down in advance. -/
inductive Call where
  /-- It changes nothing and fails. -/
  | fails (failure : CompilationFailure)
  /-- It makes changes and succeeds. -/
  | edits (changes : List Disk.Change)

/-- The call with an index. The last call is made over and over, and without any call a compiler
does nothing. -/
def callAt (calls : List Call) (index : Nat) : Call :=
  match calls[index]? with
  | some call => call
  | none => calls.getLast?.getD (.edits [])

/-- Makes changes in order; one that cannot be made is left out. -/
def makeChanges (d : Disk) : List Disk.Change → Disk
  | [] => d
  | c :: rest =>
    match d.change c with
    | .ok d => makeChanges d rest
    | .error _ => makeChanges d rest

/-- Makes a call. -/
def Call.make (d : Disk) : Call → Compilation
  | .fails failure => { result := .error failure, disk := d }
  | .edits changes => { result := .ok (), disk := makeChanges d changes }

/-- The compiler whose calls are laid down in advance. -/
def Compiler.scripted (calls : List Call) : Compiler :=
  fun index d => (callAt calls index).make d

end ContractBindings.Compile
