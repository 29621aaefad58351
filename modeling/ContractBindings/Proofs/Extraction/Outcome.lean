import ContractBindings.Extraction.Run
import ContractBindings.Proofs.Disk.Outputs

/-!
# What a run comes to

A run is a chain of steps that change a world. What it comes to is a function of the disk alone
(`extract`), once the artifacts are compiled (`compiled`).

1. `run_writeAll`: writing the outputs, as a step, is `writeOutputs`.
2. `run_afterCompile`: the steps after the compiler are `extract`.
3. `run_stages`, `run_eq`: the whole run, with the call of the compiler before and the end after.
-/

namespace ContractBindings.Extraction

/-! ## Steps one after another -/

theorem run_bind {α β : Type} (m : Step α) (f : α → Step β) (w : World) :
    (m >>= f).run w =
      match m.run w with
      | .ok a w' => (f a).run w'
      | .error e w' => .error e w' := by
  simp only [EStateM.run, bind, EStateM.bind]
  cases m w <;> rfl

@[simp] theorem run_get (w : World) : (get : Step World).run w = .ok w w := rfl

@[simp] theorem run_tell (entries : List Log.Entry) (w : World) :
    (tell entries).run w = .ok () (w.tell entries) := rfl

@[simp] theorem run_enter (stage : Stage) (w : World) :
    (enter stage).run w = .ok () (w.enter stage) := rfl

@[simp] theorem run_set (w w' : World) : (set w' : Step PUnit).run w = .ok ⟨⟩ w' := rfl

@[simp] theorem run_pure {α : Type} (a : α) (w : World) : (pure a : Step α).run w = .ok a w := rfl

@[simp] theorem run_throw {α : Type} (e : Error) (w : World) :
    (throw e : Step α).run w = .error e w := rfl

/-! ## Outcomes -/

/-- What some steps of a run come to. -/
structure Outcome (α : Type) where
  result : Except Error α
  disk : Disk
  /-- The stage in which they end. -/
  stage : Stage
  /-- What they tell. -/
  log : List Log.Entry

/-- The world after the steps. -/
def Outcome.world {α : Type} (o : Outcome α) (w : World) : World :=
  { w with disk := o.disk, stage := o.stage, log := w.log ++ o.log }

/-- The outcome of steps, as a run of them gives it. -/
def Outcome.given {α : Type} (o : Outcome α) (w : World) : EStateM.Result Error World α :=
  match o.result with
  | .ok a => .ok a (o.world w)
  | .error e => .error e (o.world w)

/-- The outputs of a run with their texts. -/
def Settings.texts (s : Settings) (artifact : Artifact) (interface : Abi.Interface) :
    List (String × String) :=
  s.planned.map fun o => (s.outputs.path o, o.text artifact (s.subject artifact interface).binding)

/-- What a run that succeeds has to show for an artifact. -/
def Settings.extracted (s : Settings) (artifactPath : String) (artifact : Artifact)
    (interface : Abi.Interface) : Extracted where
  artifactPath := artifactPath
  artifact := artifact
  interface := interface
  report := { interface, artifact, includesAbi := s.includeAbi }
  binding := (s.subject artifact interface).binding
  written := s.planned.map fun o => (o, s.outputs.path o)

/-- What a writing tells. -/
def wroteEntries (w : Disk.Writing) : List Log.Entry :=
  w.done.map fun o => .wrote o.1 o.2.utf8ByteSize

/-- The outcome of a run from the generation of the binding on. -/
def generate (s : Settings) (artifactPath : String) (artifact : Artifact)
    (interface : Abi.Interface) (d : Disk) : Outcome Extracted :=
  let w := d.writeOutputs (s.texts artifact interface)
  let log := Log.ofBinding (s.subject artifact interface) ++ wroteEntries w
  match w.failure with
  | some (path, fault) =>
    { result := .error (.persistenceFailed path fault), disk := w.disk, stage := .generating, log }
  | none =>
    { result := .ok (s.extracted artifactPath artifact interface)
      disk := w.disk
      stage := .persisted
      log := log ++ [.entered .generating .persisted, .completed s.contract s.planned.length] }

/-- The outcome of a run once its artifacts are compiled. It begins to locate them. -/
def extract (s : Settings) (d : Disk) : Outcome Extracted :=
  match Store.load ⟨s.artifactsDir⟩ s.contract d with
  | (.error e, log) => { result := .error e, disk := d, stage := .locating, log }
  | (.ok (path, artifact), log) =>
    let log := log ++ [.found path, .entered .locating .classifying]
    match Abi.Interface.ofJson artifact.abi with
    | .error fault =>
      { result := .error (.malformedInterface fault), disk := d, stage := .classifying, log }
    | .ok interface =>
      let o := generate s path artifact interface d
      { o with
        log := log ++ [Log.ofInterface interface, .entered .classifying .generating] ++ o.log }

/-! ## Steps as outcomes -/

theorem run_write (path text : String) (w : World) :
    (write path text).run w =
      match w.disk.writeOutput path text with
      | (.ok (), disk) => .ok () { w with disk, log := w.log ++ [.wrote path text.utf8ByteSize] }
      | (.error fault, disk) => .error (.persistenceFailed path fault) { w with disk } := by
  rw [write, run_bind, run_get]
  simp only
  cases w.disk.writeOutput path text with
  | mk result disk =>
    simp only [run_bind, run_set]
    cases result <;> rfl

/-- Writing all outputs, as a step, is `writeOutputs`. -/
theorem run_writeAll (outputs : List (String × String)) (w : World) :
    (writeAll outputs).run w =
      let written := w.disk.writeOutputs outputs
      let w' := { w with disk := written.disk, log := w.log ++ wroteEntries written }
      match written.failure with
      | none => .ok () w'
      | some (path, fault) => .error (.persistenceFailed path fault) w' := by
  induction outputs generalizing w with
  | nil => simp [writeAll, Disk.writeOutputs, wroteEntries]
  | cons o rest ih =>
    rw [writeAll, Disk.writeOutputs, run_bind, run_write]
    cases w.disk.writeOutput o.1 o.2 with
    | mk result disk =>
      cases result with
      | error fault => simp [wroteEntries]
      | ok _ => simp [ih, wroteEntries]

theorem run_loadArtifact (s : Settings) (w : World) :
    (loadArtifact s).run w =
      match Store.load ⟨s.artifactsDir⟩ s.contract w.disk with
      | (.ok found, log) => .ok found (w.tell (log ++ [.found found.1]))
      | (.error e, log) => .error e (w.tell log) := by
  rw [loadArtifact, run_bind, run_get]
  simp only
  cases Store.load ⟨s.artifactsDir⟩ s.contract w.disk with
  | mk loaded log =>
    simp only [run_bind, run_tell]
    cases loaded with
    | error e => rfl
    | ok found => simp only [run_bind, run_tell, run_pure, World.tell, List.append_assoc]

theorem run_classify (artifact : Artifact) (w : World) :
    (classify artifact).run w =
      match Abi.Interface.ofJson artifact.abi with
      | .ok interface => .ok interface (w.tell [Log.ofInterface interface])
      | .error fault => .error (.malformedInterface fault) w := by
  unfold classify
  cases Abi.Interface.ofJson artifact.abi with
  | error fault => rfl
  | ok interface => rfl

/-- The steps of a run after the compiler's, and after the start of the next stage. -/
def afterCompile (s : Settings) : Step Extracted := do
  let (artifactPath, artifact) ← loadArtifact s
  enter .classifying
  let interface ← classify artifact
  enter .generating
  let subject := s.subject artifact interface
  tell (Log.ofBinding subject)
  writeAll (s.planned.map fun o => (s.outputs.path o, o.text artifact subject.binding))
  enter .persisted
  tell [.completed s.contract s.planned.length]
  pure
    { artifactPath, artifact, interface
      report := { interface, artifact, includesAbi := s.includeAbi }
      binding := subject.binding
      written := s.planned.map fun o => (o, s.outputs.path o) }

theorem run_afterCompile (s : Settings) (w : World) (hstage : w.stage = .locating) :
    (afterCompile s).run w = (extract s w.disk).given w := by
  -- the cases are those of `extract`, one for each step that can fail
  obtain ⟨d, stage, calls, log⟩ := w
  obtain rfl : stage = .locating := hstage
  rw [afterCompile, run_bind, run_loadArtifact]
  unfold extract
  cases Store.load ⟨s.artifactsDir⟩ s.contract d with
  | mk loaded told =>
    cases loaded with
    | error e => simp only [Outcome.given, Outcome.world, World.tell]
    | ok found =>
      obtain ⟨path, artifact⟩ := found
      simp only [run_bind, run_enter, run_classify]
      cases Abi.Interface.ofJson artifact.abi with
      | error fault =>
        simp only [Outcome.given, Outcome.world, World.tell, World.enter, List.append_assoc,
          List.cons_append, List.nil_append]
      | ok interface =>
        simp only [run_tell, run_writeAll, generate]
        cases hfailure : (d.writeOutputs (s.texts artifact interface)).failure with
        | some failure =>
          rw [Settings.texts] at hfailure
          simp only [Settings.texts, hfailure, Outcome.given, Outcome.world, World.tell,
            World.enter, List.append_assoc, List.cons_append, List.nil_append]
        | none =>
          rw [Settings.texts] at hfailure
          simp only [Settings.texts, hfailure, Outcome.given, Outcome.world, World.tell,
            World.enter, List.append_assoc, List.cons_append, List.nil_append, run_pure,
            Settings.extracted]

/-! ## Runs -/

/-- What the call of the compiler comes to with which a run begins, if it begins with one. -/
def compiled (compiler : Compile.Compiler) (s : Settings) (w : World) : Compile.Compilation :=
  if s.skipCompile then { result := .ok (), disk := w.disk } else compiler w.calls w.disk

/-- The stages of a run before it locates the artifacts. -/
def Settings.opening (s : Settings) : List Stage :=
  if s.skipCompile then [.idle] else [.idle, .compiling]

/-- What a run tells before the compiler does. -/
def Settings.openingLog (s : Settings) : List Log.Entry :=
  if s.skipCompile then [] else [.entered .idle .compiling]

/-- The outcome of a run, but for its end. -/
def outcome (compiler : Compile.Compiler) (s : Settings) (w : World) : Outcome Extracted :=
  let c := compiled compiler s w
  match c.result with
  | .error failure =>
    { result := .error (.compilationFailed failure)
      disk := c.disk
      stage := .compiling
      log := s.openingLog ++ c.log }
  | .ok () =>
    let o := extract s c.disk
    let before := if s.skipCompile then .idle else .compiling
    { o with log := s.openingLog ++ c.log ++ .entered before .locating :: o.log }

/-- What a run tells at its end. -/
def Outcome.closingLog {α : Type} (o : Outcome α) : List Log.Entry :=
  match o.result with
  | .ok _ => []
  | .error e => [.failed o.stage e, .entered o.stage .failed]

/-- The stage in which a run ends. -/
def Outcome.lastStage {α : Type} (o : Outcome α) : Stage :=
  match o.result with
  | .ok _ => o.stage
  | .error _ => .failed

theorem stages_eq (compiler : Compile.Compiler) (s : Settings) :
    stages compiler s =
      if s.skipCompile then (do
        enter .locating
        afterCompile s)
      else (do
        enter .compiling
        compile compiler
        enter .locating
        afterCompile s) := by
  unfold stages
  split <;> rfl

theorem run_compile (compiler : Compile.Compiler) (w : World) :
    (compile compiler).run w =
      let c := compiler w.calls w.disk
      let w' := { w with disk := c.disk, calls := w.calls + 1, log := w.log ++ c.log }
      match c.result with
      | .ok () => .ok () w'
      | .error failure => .error (.compilationFailed failure) w' := by
  simp only [compile, run_bind, run_get, run_set]
  cases (compiler w.calls w.disk).result <;> rfl

theorem run_stages (compiler : Compile.Compiler) (s : Settings) (d : Disk) (n : Nat) :
    (stages compiler s).run { disk := d, calls := n } =
      (outcome compiler s { disk := d, calls := n }).given
        { disk := d, calls := if s.skipCompile then n else n + 1 } := by
  rw [stages_eq, outcome, compiled]
  cases hskip : s.skipCompile with
  | true =>
    simp only [if_true, run_bind, run_enter]
    rw [run_afterCompile s _ rfl]
    simp only [Outcome.given, Outcome.world, World.enter, World.tell, Settings.openingLog, hskip,
      if_true, List.nil_append, List.cons_append]
  | false =>
    simp only [Bool.false_eq_true, if_false, run_bind, run_enter, run_compile, World.enter,
      World.tell]
    cases (compiler n d).result with
    | error failure =>
      simp only [Outcome.given, Outcome.world, Settings.openingLog, hskip, Bool.false_eq_true,
        if_false, List.nil_append]
    | ok _ =>
      simp only
      rw [run_afterCompile s _ rfl]
      simp only [Outcome.given, Outcome.world, Settings.openingLog, hskip, Bool.false_eq_true,
        if_false, List.nil_append, List.cons_append, List.append_assoc]

/-- A run has the outcome that `outcome` tells. -/
theorem run_eq (compiler : Compile.Compiler) (s : Settings) (w : World) :
    run compiler s w =
      let o := outcome compiler s w
      (o.result,
        { disk := o.disk
          stage := o.lastStage
          calls := if s.skipCompile then w.calls else w.calls + 1
          log := o.log ++ o.closingLog }) := by
  have hstages := run_stages compiler s w.disk w.calls
  have hsame : outcome compiler s w = outcome compiler s { disk := w.disk, calls := w.calls } := rfl
  rw [run, hstages, hsame]
  generalize outcome compiler s { disk := w.disk, calls := w.calls } = o
  unfold Outcome.given
  cases hresult : o.result with
  | ok x => simp [Outcome.world, Outcome.lastStage, Outcome.closingLog, hresult]
  | error e =>
    simp [Outcome.world, Outcome.lastStage, Outcome.closingLog, hresult, World.enter, World.tell]

end ContractBindings.Extraction
