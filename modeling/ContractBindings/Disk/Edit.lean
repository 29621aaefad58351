import ContractBindings.Disk.Access
import ContractBindings.Disk.Order

/-!
# Edits

The steps in which a program changes the tree of a disk. Each of them keeps the entries of all
directories in order, so that a disk that is only edited stays in order.
-/

namespace ContractBindings.Disk

/-- A step that changes a disk. A new node has nothing in it. -/
inductive Edit where
  /-- A directory is made at a path where there is nothing yet. -/
  | createDir (path : String)
  /-- A node is made in the directory at a place. -/
  | make (place : List String) (name : String) (node : Node)
  /-- A node is put at a place, over what stands there. -/
  | put (place : List String) (node : Node)
  /-- What stands at a path goes, with everything below it. -/
  | remove (path : String)
  /-- What stands at a place goes, with everything below it. -/
  | erase (place : List String)
  /-- What stands at a place goes to another one, with everything below it. -/
  | move (place target : List String)

/-- Takes a step. -/
def edit (d : Disk) : Edit → Except Fault Disk
  | .createDir path => d.createDir path
  | .make place name node => d.makeNode place name node.bare
  | .put place node => .ok (d.put place node.bare)
  | .remove path => d.remove path
  | .erase place => .ok { d with root := d.root.erase place }
  | .move place target =>
    match d.root.get? place with
    | some node => .ok ({ d with root := d.root.erase place }.put target node)
    | none => .error .notFound

variable {d d' : Disk}

theorem ordered_put_bare (h : d.root.Ordered) (place : List String) (node : Node) :
    (d.put place node.bare).root.Ordered :=
  Node.ordered_set place (Node.ordered_of_leaf (Node.entries_bare node)) h

theorem ordered_makeNode {place : List String} {name : String} {node : Node}
    (hnode : node.Ordered) (h : d.root.Ordered) (hmade : d.makeNode place name node = .ok d') :
    d'.root.Ordered := by
  unfold makeNode at hmade
  split at hmade
  · simp at hmade
  · cases hmade
    exact Node.ordered_set _ hnode h

theorem ordered_createDir {path : String} (h : d.root.Ordered)
    (hmade : d.createDir path = .ok d') : d'.root.Ordered := by
  unfold createDir at hmade
  split at hmade
  · simp at hmade
  · split at hmade
    · simp at hmade
    · split at hmade
      · exact ordered_makeNode (Node.ordered_of_leaf rfl) h hmade
      · simp at hmade
      · simp at hmade

theorem ordered_remove {path : String} (h : d.root.Ordered) (hgone : d.remove path = .ok d') :
    d'.root.Ordered := by
  unfold remove at hgone
  split at hgone
  · cases hgone
    exact Node.ordered_erase _ h
  · simp at hgone
  · simp at hgone

/-- A step keeps the order. -/
theorem ordered_edit {e : Edit} (h : d.root.Ordered) (hedit : d.edit e = .ok d') :
    d'.root.Ordered := by
  cases e with
  | createDir path => exact ordered_createDir h hedit
  | make place name node =>
    exact ordered_makeNode (Node.ordered_of_leaf (Node.entries_bare node)) h hedit
  | put place node =>
    cases hedit
    exact ordered_put_bare h place node
  | remove path => exact ordered_remove h hedit
  | erase place =>
    cases hedit
    exact Node.ordered_erase place h
  | move place target =>
    rw [edit] at hedit
    split at hedit
    · next node hnode =>
      cases hedit
      exact Node.ordered_set target (h.below hnode) (Node.ordered_erase place h)
    · simp at hedit

end ContractBindings.Disk
