import ContractBindings.Disk.Change
import ContractBindings.Disk.Edit
import ContractBindings.Proofs.Disk.Outputs

/-!
# Order under changes

A disk in order stays in order when outputs are written to it and when others change it.

1. `ordered_writeOutputs`: writing texts, with the directories above them.
2. `ordered_change`: what others put on a disk or take away.
-/

namespace ContractBindings.Disk

variable {d d' : Disk} {path : String}

theorem ok_of_bind {α β : Type} {x : Except Fault α} {f : α → Except Fault β} {b : β}
    (h : x.bind f = .ok b) : ∃ a, x = .ok a ∧ f a = .ok b := by
  cases x with
  | error fault => simp [Except.bind] at h
  | ok a => exact ⟨a, rfl, h⟩

/-! ## Writing -/

theorem ordered_createEach (h : d.root.Ordered) (paths : List String) :
    (d.createEach paths).2.root.Ordered := by
  induction paths generalizing d with
  | nil => exact h
  | cons path parents ih =>
    rw [createEach]
    split
    · next hmade => exact ordered_createDir h hmade
    · have habove := ih h
      split
      · next hfailed => exact hfailed ▸ habove
      · next hmade =>
        rw [hmade] at habove
        split
        · next hcreated => exact ordered_createDir habove hcreated
        · exact habove
    · exact h

theorem ordered_createDirAll (h : d.root.Ordered) (path : String) :
    (d.createDirAll path).2.root.Ordered :=
  ordered_createEach h (Path.ancestors path)

theorem ordered_writeAt (h : d.root.Ordered) {place : List String} {bytes : ByteArray}
    (hwritten : d.writeAt place bytes = .ok d') : d'.root.Ordered := by
  have hput (attributes : Attributes) : (d.put place (.file bytes attributes)).root.Ordered :=
    Node.ordered_set place (Node.ordered_of_leaf rfl) h
  unfold writeAt at hwritten
  split at hwritten
  · split at hwritten
    · cases hwritten
      exact hput _
    · cases hwritten
      exact Node.ordered_rewrite h
  · simp at hwritten
  · split at hwritten
    · cases hwritten
      exact h
    · simp at hwritten
  · cases hwritten
    exact h
  · cases hwritten
    exact hput _

theorem ordered_writeBytes (h : d.root.Ordered) {bytes : ByteArray}
    (hwritten : d.writeBytes path bytes = .ok d') : d'.root.Ordered := by
  obtain ⟨place, -, hat⟩ := ok_of_bind hwritten
  exact ordered_writeAt h hat

theorem ordered_makeParent (h : d.root.Ordered) (path : String) :
    (d.makeParent path).2.root.Ordered := by
  unfold makeParent
  cases Path.parent? path with
  | none => exact h
  | some parent => exact ordered_createDirAll h parent

theorem ordered_writeOutput (h : d.root.Ordered) (path text : String) :
    (d.writeOutput path text).2.root.Ordered := by
  have hmade := ordered_makeParent h path
  rw [writeOutput_eq]
  split
  · next hfailed => exact hfailed ▸ hmade
  · next hok =>
    rw [hok] at hmade
    split
    · next hwritten => exact ordered_writeBytes hmade hwritten
    · exact hmade

theorem ordered_writeOutputs (h : d.root.Ordered) (outputs : List (String × String)) :
    (d.writeOutputs outputs).disk.root.Ordered := by
  induction outputs generalizing d with
  | nil => exact h
  | cons output rest ih =>
    have hfirst := ordered_writeOutput h output.1 output.2
    rw [writeOutputs]
    split
    · next hfailed =>
      rw [hfailed] at hfirst
      exact hfirst
    · next hok =>
      rw [hok] at hfirst
      exact ih hfirst

/-! ## Changes from outside -/

theorem ordered_chain (name : String) (depth : Nat) : (Node.chain name depth).Ordered := by
  induction depth with
  | zero => exact Node.ordered_of_leaf rfl
  | succ depth ih => exact Node.ordered_of_entries (List.pairwise_singleton _ _) (by simpa using ih)

theorem ordered_createParents (h : d.root.Ordered) (hmade : d.createParents path = .ok d') :
    d'.root.Ordered := by
  unfold createParents at hmade
  split at hmade
  · cases hmade
    exact h
  · next parent _ =>
    have hordered := ordered_createDirAll h parent
    split at hmade
    · next hall =>
      cases hmade
      rw [hall] at hordered
      exact hordered
    · simp at hmade

theorem ordered_createDirs (h : d.root.Ordered) (hmade : d.createDirs path = .ok d') :
    d'.root.Ordered := by
  have hordered := ordered_createDirAll h path
  unfold createDirs at hmade
  split at hmade
  · next hall =>
    cases hmade
    rw [hall] at hordered
    exact hordered
  · simp at hmade

theorem ordered_createLink (h : d.root.Ordered) {target : String}
    (hmade : d.createLink path target = .ok d') : d'.root.Ordered := by
  unfold createLink at hmade
  split at hmade
  · exact ordered_makeNode (Node.ordered_of_leaf rfl) h hmade
  · simp at hmade
  · simp at hmade

theorem ordered_putInto (h : d.root.Ordered) {name : String} {node : Node} (hnode : node.Ordered)
    (hput : d.putInto path name node = .ok d') : d'.root.Ordered := by
  unfold putInto at hput
  split at hput
  · exact ordered_makeNode hnode h hput
  · simp at hput
  · simp at hput

/-- A change from outside keeps the order. -/
theorem ordered_change (h : d.root.Ordered) {c : Change} (hchange : d.change c = .ok d') :
    d'.root.Ordered := by
  cases c with
  | file path bytes =>
    obtain ⟨e, hparents, hwritten⟩ := ok_of_bind hchange
    exact ordered_writeBytes (ordered_createParents h hparents) hwritten
  | link path target =>
    obtain ⟨e, hparents, hlinked⟩ := ok_of_bind hchange
    exact ordered_createLink (ordered_createParents h hparents) hlinked
  | directory path => exact ordered_createDirs h hchange
  | chain path name depth =>
    cases depth with
    | zero => exact ordered_createDirs h hchange
    | succ depth =>
      obtain ⟨e, hdirs, hput⟩ := ok_of_bind hchange
      exact ordered_putInto (ordered_createDirs h hdirs) (ordered_chain name depth) hput
  | removal path =>
    rw [change] at hchange
    split at hchange
    · next hgone =>
      cases hchange
      exact ordered_remove h hgone
    · cases hchange
      exact h

end ContractBindings.Disk
