import ContractBindings.Compile.Compiler
import ContractBindings.Extraction.Settings
import ContractBindings.Log.Binding
import ContractBindings.Report
import ContractBindings.Store.Basic

/-!
# Runs of an extraction

A run compiles if it should, finds and reads the artifact, sorts its interface, makes the report
and the binding, and writes the outputs. The first error ends it, and everything done until then
stays done.

* `World`: what a run can see and change.
* `Step`: a part of a run, which changes the world whether it succeeds or not.
* `run`: the whole run, which ends in one of two stages.
-/

namespace ContractBindings.Extraction

/-- What a run can see and change. -/
structure World where
  disk : Disk
  stage : Stage := .idle
  /-- How often the compiler has been called. -/
  calls : Nat := 0
  /-- What the run has told so far. -/
  log : List Log.Entry := []

/-- A part of a run. -/
abbrev Step := EStateM Error World

/-- What a run that succeeds has to show. -/
structure Extracted where
  artifactPath : String
  artifact : Artifact
  interface : Abi.Interface
  report : Report
  binding : TypeScript.Binding
  /-- The outputs with their paths, in the order in which they were written. -/
  written : List (Output × String)

/-! ## Steps -/

/-- The world after something was told. -/
def World.tell (entries : List Log.Entry) (w : World) : World :=
  { w with log := w.log ++ entries }

/-- The world in another stage, which is told. -/
def World.enter (stage : Stage) (w : World) : World :=
  { w.tell [.entered w.stage stage] with stage }

/-- Tells something. -/
def tell (entries : List Log.Entry) : Step Unit := modify (·.tell entries)

/-- Goes to another stage. -/
def enter (stage : Stage) : Step Unit := modify (·.enter stage)

/-- Calls the compiler. -/
def compile (compiler : Compile.Compiler) : Step Unit := do
  let w ← get
  let compilation := compiler w.calls w.disk
  set { w.tell compilation.log with disk := compilation.disk, calls := w.calls + 1 }
  match compilation.result with
  | .ok () => pure ()
  | .error failure => throw (.compilationFailed failure)

/-- Finds and reads the artifact. -/
def loadArtifact (s : Settings) : Step (String × Artifact) := do
  let (loaded, log) := Store.load ⟨s.artifactsDir⟩ s.contract (← get).disk
  tell log
  match loaded with
  | .ok (path, artifact) =>
    tell [.found path]
    pure (path, artifact)
  | .error e => throw e

/-- Sorts the interface of an artifact. -/
def classify (artifact : Artifact) : Step Abi.Interface :=
  match Abi.Interface.ofJson artifact.abi with
  | .ok interface => do
    tell [Log.ofInterface interface]
    pure interface
  | .error fault => throw (.malformedInterface fault)

/-- Writes a text to a path. -/
def write (path text : String) : Step Unit := do
  let w ← get
  let (result, disk) := w.disk.writeOutput path text
  set { w with disk }
  match result with
  | .ok () => tell [.wrote path text.utf8ByteSize]
  | .error fault => throw (.persistenceFailed path fault)

/-- Writes texts to paths, in order. -/
def writeAll : List (String × String) → Step Unit
  | [] => pure ()
  | (path, text) :: rest => do
    write path text
    writeAll rest

/-! ## Outputs -/

/-- What a binding is made from, under some settings. -/
def Settings.subject (s : Settings) (artifact : Artifact) (interface : Abi.Interface) :
    TypeScript.Subject where
  contract := s.contract
  interface := interface
  abi := artifact.abi
  options :=
    { exported := s.exported
      bytecode := if s.embedBytecode then some artifact.bytecode else none }

/-- The text of an output. -/
def Output.text (artifact : Artifact) (binding : TypeScript.Binding) : Output → String
  | .abiJson => artifact.abi.pretty
  | .typescript => binding.typescript
  | .module => binding.module

/-! ## Runs -/

/-- The stages of a run, from the first to the last or to the first error. -/
def stages (compiler : Compile.Compiler) (s : Settings) : Step Extracted := do
  unless s.skipCompile do
    enter .compiling
    compile compiler
  enter .locating
  let (artifactPath, artifact) ← loadArtifact s
  enter .classifying
  let interface ← classify artifact
  enter .generating
  let subject := s.subject artifact interface
  tell (Log.ofBinding subject)
  writeAll (s.planned.map fun o =>
    (s.outputs.path o, o.text artifact subject.binding))
  enter .persisted
  tell [.completed s.contract s.planned.length]
  pure
    { artifactPath, artifact, interface
      report := { interface, artifact, includesAbi := s.includeAbi }
      binding := subject.binding
      written := s.planned.map fun o => (o, s.outputs.path o) }

/-- A run, from wherever the world stands. The log holds what this run tells. -/
def run (compiler : Compile.Compiler) (s : Settings) (w : World) :
    Except Error Extracted × World :=
  match (stages compiler s).run { w with stage := .idle, log := [] } with
  | .ok extracted w => (.ok extracted, w)
  | .error e w => (.error e, (w.tell [.failed w.stage e]).enter .failed)

end ContractBindings.Extraction
