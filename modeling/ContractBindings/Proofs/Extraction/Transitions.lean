import ContractBindings.Proofs.Extraction.Outcome

/-!
# The stages of a run

A run goes through its stages in order. One that fails leaves off at the stage where its error
arises, which the error tells, and goes from there to the failed stage.

1. `Store.transitions_load`: finding and reading an artifact tells no transition.
2. `stage_of_load`: an error of finding or reading arises where the artifacts are located.
3. `extract_stages`: the transitions of a run after its compiler, and the stage of its error.
-/

namespace ContractBindings

/-! ## Transitions -/

/-- The transition that an entry tells. -/
def Log.Entry.transition? : Log.Entry → Option (Extraction.Stage × Extraction.Stage)
  | .entered before after => some (before, after)
  | _ => none

/-- The transitions that a log tells, in order. -/
def Log.transitions (log : List Log.Entry) : List (Extraction.Stage × Extraction.Stage) :=
  log.filterMap Log.Entry.transition?

@[simp] theorem Log.transitions_nil : Log.transitions [] = [] := rfl

@[simp] theorem Log.transitions_cons (entry : Log.Entry) (log : List Log.Entry) :
    Log.transitions (entry :: log) = entry.transition?.toList ++ Log.transitions log := by
  rw [transitions, List.filterMap_cons]
  cases entry.transition? <;> rfl

@[simp] theorem Log.transitions_append (log log' : List Log.Entry) :
    Log.transitions (log ++ log') = Log.transitions log ++ Log.transitions log' :=
  List.filterMap_append

/-! ## Searches -/

namespace Disk

open Log (transitions)

theorem transitions_first {searches : List Search} (h : ∀ x ∈ searches, transitions x.log = []) :
    transitions (Search.first searches).log = [] := by
  induction searches with
  | nil => rfl
  | cons x rest ih =>
    rw [List.forall_mem_cons] at h
    rw [Search.first]
    split
    · exact h.1
    · simp [h.1, ih h.2]

mutual

theorem transitions_searchNode (file name path : String) :
    ∀ node, transitions (searchNode file name path node).log = []
  | .file _ _ => by
    rw [searchNode]
    split <;> rfl
  | .link _ | .device _ | .sealed _ _ => by
    rw [searchNode]
    rfl
  | .dir entries => by
    rw [searchNode]
    exact transitions_searchEntries file path entries
termination_by node => (sizeOf node, 0)

theorem transitions_searchEntries (file path : String) (entries : List (String × Node)) :
    transitions (searchEntries file path entries).log = [] := by
  rw [searchEntries]
  split
  · rfl
  · refine transitions_first fun x hx => ?_
    obtain ⟨e, he, rfl⟩ := List.mem_map.1 hx
    exact transitions_searchEach file path entries e (List.mem_mergeSort.1 he)
termination_by (sizeOf entries, 1)

theorem transitions_searchEach (file path : String) :
    ∀ entries, ∀ x ∈ searchEach file path entries, transitions x.2.log = []
  | [] => by simp [searchEach]
  | (name, node) :: rest => by
    rw [searchEach, List.forall_mem_cons]
    exact ⟨transitions_searchNode file name (Path.join path name) node,
      transitions_searchEach file path rest⟩
termination_by entries => (sizeOf entries, 0)

end

end Disk

theorem Disk.transitions_find (d : Disk) (root file : String) :
    Log.transitions (d.find root file).log = [] := by
  unfold find
  split
  · exact transitions_searchEntries _ _ _
  · rfl
  · simp [Log.Entry.transition?]

theorem Store.transitions_locate (store : Store) (contract : String) (d : Disk) :
    Log.transitions (store.locate contract d).log = [] := by
  unfold locate
  cases (store.conventional contract).find? d.isFile with
  | some path => simp [Log.Entry.transition?]
  | none => simp [Log.Entry.transition?, Disk.transitions_find]

/-- Finding and reading an artifact tells no transition. -/
theorem Store.transitions_load (store : Store) (contract : String) (d : Disk) :
    Log.transitions (store.load contract d).2 = [] := by
  have hlocate := transitions_locate store contract d
  unfold load
  simp only
  split
  · exact hlocate
  · split
    · exact hlocate
    · simp [hlocate, Log.Entry.transition?]

namespace Extraction

/-! ## Stages of errors -/

/-- The stage at which an error arises. -/
def Error.stage : Error → Stage
  | compilationFailed _ => .compiling
  | artifactNotFound .. | artifactRead .. | invalidArtifact .. => .locating
  | malformedInterface _ => .classifying
  | persistenceFailed .. => .generating

theorem stage_of_load {store : Store} {contract : String} {d : Disk} {e : Error}
    {log : List Log.Entry} (h : store.load contract d = (.error e, log)) : e.stage = .locating := by
  unfold Store.load at h
  simp only at h
  split at h
  · obtain rfl := Except.error.inj (Prod.mk.inj h).1
    rfl
  · next path _ =>
    split at h
    · next e' hread =>
      obtain rfl := Except.error.inj (Prod.mk.inj h).1
      unfold Store.readAt at hread
      split at hread
      · obtain rfl := Except.error.inj hread
        rfl
      · next text _ =>
        cases hartifact : Artifact.read text with
        | ok artifact => simp [hartifact, Except.mapError] at hread
        | error fault =>
          rw [hartifact] at hread
          obtain rfl := Except.error.inj hread
          rfl
    · simp at h

/-- The transitions between the stages of a list. -/
def between (stages : List Stage) : List (Stage × Stage) := stages.zip stages.tail

/-- The stages of a run from the one in which it locates the artifacts. -/
def Stage.late : List Stage := [.locating, .classifying, .generating, .persisted]

/-- The stages of a list up to one of them. -/
def upTo (stage : Stage) (stages : List Stage) : List Stage :=
  stages.takeWhile (· ≠ stage) ++ [stage]

theorem transitions_ofBinding (subject : TypeScript.Subject) :
    Log.transitions (Log.ofBinding subject) = [] := by
  rw [Log.ofBinding, Log.transitions_append, Log.transitions, List.filterMap_map]
  simp [Function.comp_def, Log.Entry.transition?]

theorem transitions_wroteEntries (w : Disk.Writing) : Log.transitions (wroteEntries w) = [] := by
  rw [wroteEntries, Log.transitions, List.filterMap_map]
  simp [Function.comp_def, Log.Entry.transition?]

/-- After the compiler a run goes through all its stages, or up to the one of its error. -/
theorem extract_stages (s : Settings) (d : Disk) :
    let o := extract s d
    match o.result with
    | .ok _ => o.stage = .persisted ∧ Log.transitions o.log = between Stage.late
    | .error e => o.stage = e.stage ∧ e.stage ∈ Stage.late ∧
        Log.transitions o.log = between (upTo e.stage Stage.late) := by
  unfold extract
  have hquiet := Store.transitions_load ⟨s.artifactsDir⟩ s.contract d
  cases hload : Store.load ⟨s.artifactsDir⟩ s.contract d with
  | mk loaded log =>
    rw [hload] at hquiet
    cases loaded with
    | error e =>
      -- no artifact: the run is still locating
      have hstage := stage_of_load hload
      simp only [hstage, hquiet]
      decide
    | ok found =>
      obtain ⟨path, artifact⟩ := found
      simp only
      cases Abi.Interface.ofJson artifact.abi with
      | error fault =>
        simp only [Error.stage, Log.transitions_append, hquiet, Log.transitions_cons,
          Log.Entry.transition?]
        decide
      | ok interface =>
        -- whether all outputs are written or not, the writing itself tells no transition
        have htold := transitions_ofBinding (s.subject artifact interface)
        have hwrote := transitions_wroteEntries (d.writeOutputs (s.texts artifact interface))
        simp only [generate]
        cases (d.writeOutputs (s.texts artifact interface)).failure with
        | some failure =>
          simp only [Error.stage, Log.transitions_append, hquiet, htold, hwrote,
            Log.transitions_cons, Log.Entry.transition?, Log.ofInterface]
          decide
        | none =>
          simp only [Log.transitions_append, hquiet, htold, hwrote, Log.transitions_cons,
            Log.Entry.transition?, Log.ofInterface]
          decide

end Extraction

end ContractBindings
