import ContractBindings.Proofs.CommandLine.Outcome
import ContractBindings.Proofs.Extraction.Again
import ContractBindings.Proofs.Extraction.Session
import ContractBindings.Proofs.Host.Order

/-!
# Runs that compile with a command

A command that compiles can do to the disk whatever programs can do. The disk stays in order all the
same, so that what is said of disks in order is true after every command.

1. `run_ordered`, `session_ordered`: a session keeps its disk in order.
2. `session_least_find`: in a session that compiles with a command, a search finds the least of the
   files of a name.
3. `run_again_compiled`: a run that compiled with a command can be made again without compiling.
4. `execute_ordered`: the whole program keeps the order, whatever its arguments.
-/

namespace ContractBindings

namespace Extraction

variable {compiler : Compile.Compiler} {s : Settings} {directory : String} {d : Disk}

/-! ## Sessions in order -/

theorem extract_ordered (s : Settings) (h : d.root.Ordered) : (extract s d).disk.root.Ordered := by
  rcases extract_cases s d with ⟨e, -, hdisk, -⟩ | ⟨path, artifact, interface, hfinds⟩
  · rw [hdisk]
    exact h
  · rw [(extract_of_finds hfinds).2]
    exact Disk.ordered_writeOutputs h _

theorem run_ordered (hcompiler : compiler.KeepsOrder) (s : Settings) {w : World}
    (h : w.disk.root.Ordered) : (run compiler s w).2.disk.root.Ordered := by
  have hcompiled : (compiled compiler s w).disk.root.Ordered := by
    unfold compiled
    split
    · exact h
    · exact hcompiler w.calls w.disk h
  cases hresult : (compiled compiler s w).result with
  | error failure =>
    rw [run_eq, outcome]
    simp only [hresult]
    exact hcompiled
  | ok _ =>
    rw [(run_of_compiled hresult rfl).2]
    exact extract_ordered s hcompiled

/-- Others leave a disk in order that was in order. -/
def Move.KeepsOrder : Move → Prop
  | .run => True
  | .change f => ∀ d : Disk, d.root.Ordered → (f d).root.Ordered

theorem Session.move_ordered (hcompiler : compiler.KeepsOrder) {x : Session}
    (h : x.world.disk.root.Ordered) {m : Move} (hm : m.KeepsOrder) :
    (Session.move compiler s x m).world.disk.root.Ordered := by
  cases m with
  | run => exact run_ordered hcompiler s h
  | change f => exact hm x.world.disk h

/-- In a session the disk stays in order. -/
theorem session_ordered (hcompiler : compiler.KeepsOrder) (s : Settings) (h : d.root.Ordered)
    {moves : List Move} (hmoves : ∀ m ∈ moves, m.KeepsOrder) :
    (Session.after compiler s d moves).world.disk.root.Ordered := by
  have hfold (x : Session) (hx : x.world.disk.root.Ordered) :
      (moves.foldl (Session.move compiler s) x).world.disk.root.Ordered := by
    induction moves generalizing x with
    | nil => exact hx
    | cons m moves ih =>
      rw [List.forall_mem_cons] at hmoves
      exact ih hmoves.2 _ (Session.move_ordered hcompiler hx hmoves.1)
  exact hfold _ h

/-! ## After a command -/

theorem distinct_of_ordered {root : Disk.Node} (h : root.Ordered) : root.Distinct :=
  fun place entries hdir => (h place entries hdir).imp ne_of_lt

/-- In every session that compiles with a command, from a disk in order, a search finds the least of
the files of a name, whatever the command has done. -/
theorem session_least_find (c : Compile.Command) (s : Settings) (h : d.root.Ordered)
    {moves : List Move} (hmoves : ∀ m ∈ moves, m.KeepsOrder) (root file : String) :
    let d' := (Session.after c.compiler s d moves).world.disk
    Disk.Least (d'.find root file).path root (d'.HasBelow root file) := by
  intro d'
  exact Disk.least_find
    (distinct_of_ordered (session_ordered (Compile.keepsOrder_command c) s h hmoves)) root file

/-- A run that compiled with a command and succeeded succeeds again without compiling, with the same
result, and changes nothing. The command may have done anything, but it has left no symbolic links,
and no output that is the artifact under another name. -/
theorem run_again_compiled (c : Compile.Command) (hs : s.Within directory)
    (hcompiles : s.skipCompile = false) (w : World) (hordered : w.disk.root.Ordered)
    (hroot : (c.run w.disk).disk.root.Unlinked) (hapart : s.Apart (c.run w.disk).disk)
    {x : Extracted} {w' : World} (hrun : run c.compiler s w = (.ok x, w'))
    (compiler : Compile.Compiler) :
    let again := run compiler { s with skipCompile := true } w'
    again.1 = .ok x ∧ again.2.disk = w'.disk := by
  intro again
  have hcall : compiled c.compiler s w = c.run w.disk := by
    simp [compiled, hcompiles, Compile.Command.compiler]
  have hkept : (c.run w.disk).disk.root.Ordered :=
    Compile.keepsOrder_command c w.calls w.disk hordered
  cases hcompiled : (compiled c.compiler s w).result with
  | error failure =>
    rw [run_eq, outcome] at hrun
    simp [hcompiled] at hrun
  | ok _ =>
    obtain ⟨hresult, hleft⟩ := run_of_compiled hcompiled rfl
    rw [hrun, hcall] at hresult hleft
    have hleft : w'.disk = (extract s (c.run w.disk).disk).disk := hleft
    obtain ⟨hsame, hdisk⟩ := extract_again hs hroot hkept hapart hresult.symm
    -- what comes after compiling is the same for both settings
    obtain ⟨hresult', hleft'⟩ := @run_of_skip { s with skipCompile := true } compiler rfl w'
    rw [hleft] at hresult' hleft' ⊢
    exact ⟨hresult'.trans hsame, hleft'.trans hdisk⟩

end Extraction

namespace CommandLine

/-! ## The program -/

/-- The program leaves a disk in order that was in order, whatever its arguments, and whatever the
command does that compiles. -/
theorem execute_ordered (arguments : List String) {s : Surroundings}
    (hcompiler : s.compiler = Compile.Command.compiler) {d : Disk} (h : d.root.Ordered) :
    (execute arguments s d).disk.root.Ordered := by
  unfold execute
  cases hparse : parse arguments with
  | error u => exact (response_of_usage hparse).1 ▸ h
  | ok i =>
    simp only
    cases hcommand : i.compileCommand? with
    | none =>
      rw [Invocation.execute, hcommand]
      exact h
    | some command =>
      have hkeeps : (s.compiler command).KeepsOrder := by
        rw [hcompiler]
        exact Compile.keepsOrder_command command
      rw [disk_of_run hcommand]
      exact Extraction.run_ordered hkeeps (i.settings s.outputWatched) h

end CommandLine

end ContractBindings
