import ContractBindings.Disk.Path

/-!
# Settings of an extraction

Which contract an extraction is about, where it looks, what it writes, and where to.
-/

namespace ContractBindings.Extraction

/-- The outputs of an extraction. -/
inductive Output where
  /-- The interface as JSON. -/
  | abiJson
  /-- The TypeScript file. -/
  | typescript
  /-- The module. -/
  | module
  deriving DecidableEq, Repr

/-- What an output is called. -/
def Output.label : Output → String
  | .abiJson => "ABI"
  | .typescript => "TypeScript interface"
  | .module => "JavaScript module"

/-- Where the outputs go. -/
structure OutputPaths where
  abiJson : String
  typescript : String
  module : String
  deriving DecidableEq, Repr

namespace OutputPaths

/-- The usual names of the outputs for a contract, in a directory. -/
def inDir (directory contract : String) : OutputPaths where
  abiJson := Disk.Path.join directory (contract ++ "-abi.json")
  typescript := Disk.Path.join directory (contract ++ "-interface.ts")
  module := Disk.Path.join directory (contract ++ "-abi.js")

/-- The path of an output. -/
def path (p : OutputPaths) : Output → String
  | .abiJson => p.abiJson
  | .typescript => p.typescript
  | .module => p.module

end OutputPaths

/-- The settings of an extraction. -/
structure Settings where
  contract : String
  /-- The directory of artifacts. -/
  artifactsDir : String := "artifacts"
  outputs : OutputPaths := OutputPaths.inDir "abi" contract
  /-- The artifacts are there already. -/
  skipCompile : Bool := false
  /-- The module is among the outputs. -/
  emitModule : Bool := true
  /-- The binding holds the creation code. -/
  embedBytecode : Bool := false
  /-- The report begins with the interface as JSON. -/
  includeAbi : Bool := false
  /-- The declarations can be imported. -/
  exported : Bool := true
  /-- The report is coloured. -/
  coloured : Bool := false
  deriving DecidableEq, Repr

/-- The settings with all outputs in a directory, under their usual names. -/
def Settings.inDir (directory : String) (s : Settings) : Settings :=
  { s with outputs := OutputPaths.inDir directory s.contract }

/-- The outputs that an extraction writes, in order. -/
def Settings.planned (s : Settings) : List Output :=
  [.abiJson, .typescript] ++ if s.emitModule then [.module] else []

end ContractBindings.Extraction
