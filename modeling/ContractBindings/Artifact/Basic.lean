import ContractBindings.Json.Reader

/-!
# Artifacts

What a compiler leaves behind for one contract. The interface stays JSON, so that it can be
written out as it came in.
-/

namespace ContractBindings

/-- A compiled contract. -/
structure Artifact where
  contractName : String
  sourceName : String := ""
  /-- The interface as JSON. -/
  abi : Json
  /-- The creation code in hexadecimal, after `0x`. -/
  bytecode : String := ""
  /-- The code on the chain in hexadecimal, after `0x`. -/
  deployedBytecode : String := ""
  /-- A JSON text about the compilation. -/
  metadata : Option String := none
  deriving Repr

namespace Artifact

/-- The compiler's version in the metadata. Metadata that cannot be read say nothing. -/
def compilerVersion (a : Artifact) : Option String :=
  match a.metadata.map Json.read with
  | some (.ok v) =>
    match (v.member? "compiler").bind (Json.member? "version") with
    | some (.text s) => some s
    | _ => none
  | _ => none

/-- The size in bytes of code written in hexadecimal: two digits a byte, not counting the `0x`.
It is `-1` for the empty text. -/
def codeSize (hex : String) : Int :=
  ((hex.utf8ByteSize / 2 : Nat) : Int) - 1

/-- The size of the creation code. -/
def bytecodeSize (a : Artifact) : Int := codeSize a.bytecode

/-- The size of the code on the chain. -/
def deployedBytecodeSize (a : Artifact) : Int := codeSize a.deployedBytecode

end Artifact

end ContractBindings
