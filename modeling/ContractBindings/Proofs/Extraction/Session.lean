import ContractBindings.Proofs.Extraction.Transitions

/-!
# Sessions

In a session runs follow each other, and between them others change the disk as they like.

1. `run_transitions`: a run starts idle, goes through its stages, and ends in one of two.
2. `run_congr`: what a run comes to depends on the disk and on what its compiler does to it.
3. `session_stages`: both, in every session.
-/

namespace ContractBindings.Extraction

/-! ## The way of a run -/

/-- The stages of a run that succeeds. -/
def Settings.itinerary (s : Settings) : List Stage := s.opening ++ Stage.late

/-- The stages of a run with a result. One that fails leaves off at the stage of its error. -/
def Settings.route (s : Settings) : Except Error Extracted → List Stage
  | .ok _ => s.itinerary
  | .error e => upTo e.stage s.itinerary ++ [.failed]

/-- The stage after a run with a result. -/
def stageAfter : Except Error Extracted → Stage
  | .ok _ => .persisted
  | .error _ => .failed

/-- What a run tells, apart from what its compiler does, takes it along its route. -/
def Follows (stages : List Stage) (log compilerLog : List Log.Entry) : Prop :=
  ∃ before after, log = before ++ compilerLog ++ after ∧
    Log.transitions (before ++ after) = between stages

/-- A run starts idle, goes through its stages up to the one of its error, and ends persisted or
failed. -/
theorem run_transitions (compiler : Compile.Compiler) (s : Settings) (w : World) :
    let (result, w') := run compiler s w
    w'.stage = stageAfter result ∧
      Follows (s.route result) w'.log (compiled compiler s w).log ∧
      ∀ e, result = .error e → e.stage ∈ s.itinerary := by
  rw [run_eq]
  simp only [outcome]
  cases hcompiled : (compiled compiler s w).result with
  | error failure =>
    -- only a compiler that is called can fail
    have hskip : s.skipCompile = false := by
      rw [Bool.eq_false_iff]
      intro hskip
      simp [compiled, hskip] at hcompiled
    refine ⟨rfl, ⟨[.entered .idle .compiling], [.failed .compiling (.compilationFailed failure),
      .entered .compiling .failed], ?_, ?_⟩, ?_⟩
    · simp only [Settings.openingLog, hskip]
      rfl
    · simp only [Log.transitions_append, Log.transitions_cons, Log.Entry.transition?,
        Settings.route, Settings.itinerary, Settings.opening, hskip, Error.stage]
      decide
    · intro e he
      obtain rfl := Except.error.inj he
      simp [Error.stage, Settings.itinerary, Settings.opening, hskip]
  | ok _ =>
    have hstages := extract_stages s (compiled compiler s w).disk
    simp only at hstages ⊢
    generalize extract s (compiled compiler s w).disk = o at hstages
    cases hresult : o.result with
    | ok x =>
      rw [hresult] at hstages
      obtain ⟨hstage, htransitions⟩ := hstages
      refine ⟨by simp [Outcome.lastStage, hstage, stageAfter],
        ⟨s.openingLog, _, List.append_assoc _ _ _, ?_⟩, by simp⟩
      simp only [Outcome.closingLog, Log.transitions_append, Log.transitions_cons,
        htransitions, Settings.route, Settings.itinerary, Settings.opening, Settings.openingLog]
      cases s.skipCompile <;> decide
    | error e =>
      rw [hresult] at hstages
      obtain ⟨hstage, hlate, htransitions⟩ := hstages
      refine ⟨by simp [Outcome.lastStage, stageAfter],
        ⟨s.openingLog, _, List.append_assoc _ _ _, ?_⟩, ?_⟩
      · simp only [Outcome.closingLog, Log.transitions_append, Log.transitions_cons,
          htransitions, hstage, Settings.route, Settings.itinerary, Settings.opening,
          Settings.openingLog, Log.Entry.transition?]
        -- what remains is about stages alone, and there are few of them
        revert hlate
        generalize e.stage = stage
        cases s.skipCompile <;> cases stage <;> decide
      · intro e' he'
        obtain rfl := Except.error.inj he'
        exact List.mem_append_right _ hlate

/-! ## What a run depends on -/

theorem outcome_congr {compiler compiler' : Compile.Compiler} {s : Settings} {w w' : World}
    (h : compiled compiler s w = compiled compiler' s w') :
    outcome compiler s w = outcome compiler' s w' := by
  simp only [outcome, h]

/-- Runs on the same disk come to the same, if their compilers do. -/
theorem run_congr {compiler compiler' : Compile.Compiler} {s : Settings} {w w' : World}
    (h : compiled compiler s w = compiled compiler' s w') :
    (run compiler s w).1 = (run compiler' s w').1 ∧
      (run compiler s w).2.disk = (run compiler' s w').2.disk ∧
      (run compiler s w).2.stage = (run compiler' s w').2.stage ∧
      (run compiler s w).2.log = (run compiler' s w').2.log := by
  rw [run_eq, run_eq, outcome_congr h]
  exact ⟨rfl, rfl, rfl, rfl⟩

theorem compiled_congr {compiler : Compile.Compiler} {s : Settings} {w w' : World}
    (hdisk : w.disk = w'.disk)
    (hcompiler : s.skipCompile = false → compiler w.calls w.disk = compiler w'.calls w'.disk) :
    compiled compiler s w = compiled compiler s w' := by
  unfold compiled
  cases hskip : s.skipCompile with
  | true => rw [if_pos rfl, if_pos rfl, hdisk]
  | false => exact hcompiler hskip

/-- A run that skips its compiler does not depend on which one it is. -/
theorem run_skip {s : Settings} (hskip : s.skipCompile = true) (compiler other : Compile.Compiler)
    (w : World) : run other s w = run compiler s w := by
  have hcompiled : compiled other s w = compiled compiler s w := by
    unfold compiled
    rw [if_pos hskip, if_pos hskip]
  rw [run_eq, run_eq, outcome_congr hcompiled]

/-! ## Sessions -/

/-- Something that happens in a session. -/
inductive Move where
  | run
  /-- Others make something of the disk. -/
  | change (f : Disk → Disk)

/-- A session so far. -/
structure Session where
  world : World
  /-- What each run has come to. -/
  results : List (Except Error Extracted) := []

namespace Session

variable {compiler : Compile.Compiler} {s : Settings}

/-- The session after one thing more. -/
def move (compiler : Compile.Compiler) (s : Settings) (x : Session) : Move → Session
  | .run =>
    let (result, world) := Extraction.run compiler s x.world
    { world, results := x.results ++ [result] }
  | .change f => { x with world := { x.world with disk := f x.world.disk } }

/-- The session after some moves, from a disk on which no run has been yet. -/
def after (compiler : Compile.Compiler) (s : Settings) (d : Disk) (moves : List Move) : Session :=
  moves.foldl (move compiler s) { world := { disk := d } }

/-- The stage between two runs. -/
def restingStage (results : List (Except Error Extracted)) : Stage :=
  match results.getLast? with
  | none => .idle
  | some result => stageAfter result

/-- Between runs a session rests in the stage of its last run, and each run has called the compiler
once, or none has. -/
structure Resting (s : Settings) (x : Session) : Prop where
  stage : x.world.stage = restingStage x.results
  calls : x.world.calls = if s.skipCompile then 0 else x.results.length

theorem Resting.move {x : Session} (h : Resting s x) (m : Move) :
    Resting s (Session.move compiler s x m) := by
  cases m with
  | change f => exact ⟨h.stage, h.calls⟩
  | run =>
    have hstage := (run_transitions compiler s x.world).1
    have hcalls : (Extraction.run compiler s x.world).2.calls =
        if s.skipCompile then x.world.calls else x.world.calls + 1 := by
      rw [run_eq]
    refine ⟨?_, ?_⟩
    · simp only [Session.move, restingStage, List.getLast?_concat]
      exact hstage
    · simp only [Session.move, hcalls, h.calls, List.length_append, List.length_singleton]
      cases s.skipCompile <;> rfl

theorem resting_foldl {x : Session} (h : Resting s x) (moves : List Move) :
    Resting s (moves.foldl (Session.move compiler s) x) := by
  induction moves generalizing x with
  | nil => exact h
  | cons m moves ih => exact ih (h.move m)

theorem resting_after (d : Disk) (moves : List Move) : Resting s (after compiler s d moves) :=
  resting_foldl ⟨rfl, by simp⟩ moves

end Session

/-- In every session, the stage between runs is that of the last run, and the next run ends
persisted or failed, by its result. It starts idle, goes through its stages in order, up to the one
of its error if it fails, and calls the compiler once if it should and not otherwise. All that it
comes to depends on the disk and on what the compiler does to it, and on nothing before. -/
theorem session_stages (compiler : Compile.Compiler) (s : Settings) (d : Disk)
    (moves : List Move) :
    let x := Session.after compiler s d moves
    let result := (run compiler s x.world).1
    let w := (run compiler s x.world).2
    (x.world.stage = .idle ∧ x.results = [] ∨
        (∃ extracted, x.world.stage = .persisted ∧ x.results.getLast? = some (.ok extracted)) ∨
        ∃ e, x.world.stage = .failed ∧ x.results.getLast? = some (.error e)) ∧
      (w.stage = .persisted ↔ ∃ extracted, result = .ok extracted) ∧
      (w.stage = .failed ↔ ∃ e, result = .error e) ∧
      Follows (s.route result) w.log (compiled compiler s x.world).log ∧
      (∀ e, result = .error e → e.stage ∈ s.itinerary) ∧
      x.world.calls = (if s.skipCompile then 0 else x.results.length) ∧
      w.calls = (if s.skipCompile then x.world.calls else x.world.calls + 1) ∧
      (s.skipCompile = true → ∀ other, run other s x.world = run compiler s x.world) ∧
      ∀ d' moves', let y := Session.after compiler s d' moves'
        y.world.disk = x.world.disk →
        (s.skipCompile = false →
          compiler y.world.calls y.world.disk = compiler x.world.calls x.world.disk) →
        (run compiler s y.world).1 = result ∧ (run compiler s y.world).2.disk = w.disk ∧
          (run compiler s y.world).2.stage = w.stage ∧ (run compiler s y.world).2.log = w.log := by
  intro x result w
  have hresting : Session.Resting s x := Session.resting_after d moves
  obtain ⟨hstage, hfollows, herror⟩ := run_transitions compiler s x.world
  have hstage : w.stage = stageAfter result := hstage
  refine ⟨?_, ?_, ?_, hfollows, herror, hresting.calls, ?_, ?_, ?_⟩
  · rw [hresting.stage, Session.restingStage]
    cases hlast : x.results.getLast? with
    | none => exact .inl ⟨rfl, List.getLast?_eq_none_iff.1 hlast⟩
    | some last =>
      cases last with
      | ok extracted => exact .inr (.inl ⟨extracted, rfl, rfl⟩)
      | error e => exact .inr (.inr ⟨e, rfl, rfl⟩)
  · rw [hstage]
    cases result <;> simp [stageAfter]
  · rw [hstage]
    cases result <;> simp [stageAfter]
  · simp only [w, run_eq]
  · exact fun hskip other => run_skip hskip compiler other x.world
  · intro d' moves' y hdisk hcompiler
    exact run_congr (compiled_congr hdisk hcompiler)

end ContractBindings.Extraction
