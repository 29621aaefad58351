import ContractBindings.Compile.Run
import ContractBindings.Proofs.Disk.Order
import ContractBindings.Proofs.Store.Least

/-!
# Order on the host

Programs start each other, and shells run scripts that do anything to the disk. All of it is made of
steps that keep the disk in order, so a command can compile in whatever way it likes.

1. `ordered_root`: a new system has its disk in order.
2. `machineOn_disk`: a program begins with the disk that it is given.
3. `execute_ordered`: what a program leaves behind is in order.
4. `keepsOrder_command`, `keepsOrder_scripted`: so is what a compiler leaves.
-/

namespace ContractBindings

open Disk (Node)

namespace Host

/-! ## New systems -/

theorem ordered_directory {entries : List (String × Node)} (hnames : (entries.map Prod.fst).Nodup)
    (hentries : ∀ e ∈ entries, e.2.Ordered) : (directory entries).Ordered := by
  refine Node.ordered_of_entries (Disk.pairwise_sorted hnames) ?_
  intro e he
  exact hentries e (List.mem_mergeSort.1 he)

theorem ordered_devices : devices.Ordered := by
  have hempty : (Node.dir []).Ordered := Node.ordered_of_leaf rfl
  have hdevice (device : Disk.Device) : (Node.device device).Ordered := Node.ordered_of_leaf rfl
  have hstreams : (directory ((List.range 10).map fun n =>
      (toString n, Node.device (.stream n)))).Ordered := by
    refine ordered_directory (by decide) ?_
    simp only [List.forall_mem_map]
    exact fun n _ => hdevice (.stream n)
  refine ordered_directory (by simp [vacant]) ?_
  simp only [List.forall_mem_cons, List.not_mem_nil, vacant, hempty, hdevice, hstreams]
  simp

/-- The disk of a new system is in order, if no program is there twice. -/
theorem ordered_root {programs : List String} (h : programs.Nodup) : (root programs).Ordered := by
  have hempty : (Node.dir []).Ordered := Node.ordered_of_leaf rfl
  have hlink (target : String) : (Node.link target).Ordered := Node.ordered_of_leaf rfl
  have hfile (text : String) : (textFile text).Ordered := Node.ordered_of_leaf rfl
  have hsealed (fault fault' : Disk.Fault) : (Node.sealed fault fault').Ordered :=
    Node.ordered_of_leaf rfl
  have hprograms : (directory (programs.map fun name => (name, programFile name))).Ordered := by
    refine ordered_directory ?_ ?_
    · simpa [Function.comp_def] using h
    · simp only [List.forall_mem_map]
      exact fun name _ => Node.ordered_of_leaf rfl
  unfold root
  refine ordered_directory (by simp [vacant]) ?_
  simp only [List.forall_mem_cons, vacant, hempty, hlink, hsealed, ordered_devices, true_and]
  refine ⟨?etc, ?usr, ?var, by simp⟩
  case etc => exact ordered_directory (by simp) (by simp [hfile])
  case var => exact ordered_directory (by simp) (by simp [hempty, hlink])
  case usr =>
    refine ordered_directory (by simp) ?_
    simp only [List.forall_mem_cons, hempty, hprograms, true_and]
    refine ⟨?_, by simp⟩
    exact ordered_directory (by simp) (by simp [hempty])

/-- The system on which commands run has its disk in order. -/
theorem ordered_host : (root programNames).Ordered :=
  ordered_root (by decide +kernel)

/-! ## Programs -/

/-- A program begins with the disk that it is given, if that is in order. -/
theorem machineOn_disk {d : Disk} (h : d.root.Ordered) : (machineOn d).disk = d := by
  simp only [machineOn, Process.Machine.disk, Node.arranged_of_ordered h]

/-- What a program leaves behind is in order, whatever the program does. -/
theorem execute_ordered {program : String} {args : List String} {directory : Option String}
    {d : Disk} {o : Outcome} (h : execute program args directory d = .ok o) :
    o.disk.root.Ordered := by
  have hfinished (ending : Process.Ending) (m : Process.Machine)
      (hended : execute.finished d ending m = .ok o) : o.disk.root.Ordered := by
    cases hended
    exact m.world.ordered
  unfold execute at h
  split at h
  · simp at h
  · split at h
    · simp at h
    · simp only at h
      split at h
      · exact hfinished _ _ h
      · exact hfinished _ _ h
      · exact hfinished _ _ h
      · simp at h

end Host

namespace Compile

/-! ## Compilers -/

/-- A compiler leaves a disk in order that was in order. -/
def Compiler.KeepsOrder (compiler : Compiler) : Prop :=
  ∀ calls d, d.root.Ordered → (compiler calls d).disk.root.Ordered

/-- A command keeps the order, whatever it runs. -/
theorem keepsOrder_command (c : Command) : c.compiler.KeepsOrder := by
  intro calls d h
  unfold Command.compiler Command.run
  cases hrun : Host.execute c.program c.args c.directory d with
  | error fault => exact h
  | ok o =>
    have hleft := Host.execute_ordered hrun
    simp only
    split <;> exact hleft

theorem ordered_makeChanges {d : Disk} (h : d.root.Ordered) (changes : List Disk.Change) :
    (makeChanges d changes).root.Ordered := by
  induction changes generalizing d with
  | nil => exact h
  | cons c rest ih =>
    rw [makeChanges]
    split
    · next hchange => exact ih (Disk.ordered_change h hchange)
    · exact ih h

theorem keepsOrder_scripted (calls : List Call) : (Compiler.scripted calls).KeepsOrder := by
  intro index d h
  unfold Compiler.scripted
  cases callAt calls index with
  | fails failure => exact h
  | edits changes => exact ordered_makeChanges h changes

end Compile

end ContractBindings
