import ContractBindings.Abi.Interface
import ContractBindings.Disk.Fault
import ContractBindings.Text.Blank

/-!
# Errors of an extraction

Everything that can end an extraction early, the wording of each error, and what its reader may do
about it.
-/

namespace ContractBindings.Extraction

/-- What a compiler says that did not succeed. -/
structure CompilationFailure where
  /-- The command that ran. -/
  command : String := ""
  /-- How it ended. -/
  status : String := ""
  /-- What it wrote. -/
  diagnostics : String := ""
  deriving DecidableEq, Repr

/-- The wording of a failed compilation. Blanks at the end of the diagnostics are left out, and so
are diagnostics of nothing else. -/
def CompilationFailure.message (f : CompilationFailure) : String :=
  let diagnostics := Text.trimEnd f.diagnostics
  "compilation failed: `" ++ f.command ++ "` " ++ f.status ++
    if diagnostics.isEmpty then "" else "\n" ++ diagnostics

/-- The errors of an extraction. -/
inductive Error where
  /-- No artifact of the contract below the root. -/
  | artifactNotFound (root file : String)
  /-- The artifact is there and cannot be read. -/
  | artifactRead (path : String) (fault : Disk.Fault)
  /-- The artifact is no artifact. -/
  | invalidArtifact (path : String) (fault : Json.PlacedFault)
  /-- The artifact's interface is none. -/
  | malformedInterface (fault : Abi.Interface.Malformed)
  /-- The compiler did not succeed. -/
  | compilationFailed (failure : CompilationFailure)
  /-- An output could not be written. -/
  | persistenceFailed (path : String) (fault : Disk.Fault)

namespace Error

/-- The wording of an error. -/
def message : Error → String
  | artifactNotFound root file => "artifact `" ++ file ++ "` not found under `" ++ root ++ "`"
  | artifactRead path fault => "failed to read artifact `" ++ path ++ "`: " ++ fault.message
  | invalidArtifact path fault => "invalid artifact `" ++ path ++ "`: " ++ fault.message
  | malformedInterface fault => "malformed interface: " ++ fault.message
  | compilationFailed failure => failure.message
  | persistenceFailed path fault => "failed to write `" ++ path ++ "`: " ++ fault.message

/-- What the reader of an error may do next. -/
def remediation : Error → Option String
  | artifactNotFound _ _ =>
    some ("compile the contracts first (e.g. `npx hardhat compile`) and retry, " ++
      "or use `abibind compile-and-extract`")
  | invalidArtifact _ _ | malformedInterface _ =>
    some ("the compiler output looks damaged; clean and recompile " ++
      "(e.g. `npx hardhat clean && npx hardhat compile`)")
  | persistenceFailed _ _ => some "check that the output directory is writable"
  | artifactRead _ _ | compilationFailed _ => none

end Error

end ContractBindings.Extraction
