import ContractBindings.Proofs.Disk.Progress
import Mathlib.Tactic.SplitIfs

/-!
# Directories that list their entries in other orders

What stands at each place of a disk says nothing about the order in which directories list their
entries. Two disks that agree in it are the same but for that order.

1. `walkFrom_relisted`: a walk takes the same steps on both, and comes to the same end.
2. `node_relisted`: a path leads to nodes that hold the same at every place below them.
-/

namespace ContractBindings.Disk

/-- A spot, with a node without what is below it. -/
def Spot.bare : Spot → Spot
  | node place n => .node place n.bare
  | vacant directory name => .vacant directory name

namespace Node

/-- The nodes hold the same at every place, in directories that may list it in other orders. -/
def Relisted (root root' : Node) : Prop :=
  ∀ place, (root'.get? place).map bare = (root.get? place).map bare

variable {root root' : Node} {place : List String}

theorem Relisted.none (h : root.Relisted root') (hnone : root.get? place = none) :
    root'.get? place = .none := by
  have hplace := h place
  rw [hnone] at hplace
  simpa using hplace

theorem Relisted.some (h : root.Relisted root') {node : Node}
    (hnode : root.get? place = some node) :
    ∃ node', root'.get? place = .some node' ∧ node'.bare = node.bare ∧ node.Relisted node' := by
  have hplace := h place
  rw [hnode] at hplace
  obtain ⟨node', hnode', hbare⟩ := Option.map_eq_some_iff.1 hplace
  refine ⟨node', hnode', hbare, ?_⟩
  intro below
  have hbelow := h (place ++ below)
  rw [get?_append, get?_append, hnode, hnode'] at hbelow
  exact hbelow

/-- A directory lists the same names, which lead to nodes that hold the same. -/
theorem Relisted.dir (h : root.Relisted root') {entries : List (String × Node)}
    (hdir : root.get? place = .some (dir entries)) :
    ∃ entries', root'.get? place = .some (Node.dir entries') ∧
      ∀ name, (entries'.lookup name).map bare = (entries.lookup name).map bare := by
  obtain ⟨node', hnode', hbare, hbelow⟩ := h.some hdir
  cases node' with
  | dir entries' =>
    refine ⟨entries', hnode', ?_⟩
    intro name
    rw [← get?_entry hnode', ← get?_entry hdir]
    exact h _
  | _ => simp [bare] at hbare

/-- What is no directory is the same. -/
theorem Relisted.leaf (h : root.Relisted root') {node : Node}
    (hnode : root.get? place = .some node) (hleaf : ∀ entries, node ≠ Node.dir entries) :
    root'.get? place = .some node := by
  obtain ⟨node', hnode', hbare, -⟩ := h.some hnode
  rcases eq_or_dirs_of_bare hbare with rfl | ⟨_, entries, -, hdir⟩
  · exact hnode'
  · exact absurd hdir (hleaf entries)

end Node

/-- A walk comes to the same end, or is stopped by the same fault. -/
theorem walkFrom_relisted {root root' : Node} (h : root.Relisted root') (atEnd : AtEnd)
    (links : Nat) (place steps : List String) :
    (walkFrom root' atEnd links place steps).map Spot.bare =
      (walkFrom root atEnd links place steps).map Spot.bare := by
  -- the links that are left count first, then the steps
  induction links using Nat.strongRecOn generalizing place steps with
  | ind links ihLinks =>
    induction steps generalizing place with
    | nil =>
      rw [walkFrom, walkFrom]
      cases hnode : root.get? place with
      | none => rw [h.none hnode]
      | some node =>
        obtain ⟨node', hnode', hbare, -⟩ := h.some hnode
        rw [hnode']
        simp only [Except.map, Spot.bare, hbare]
    | cons name rest ih =>
      rw [walkFrom, walkFrom]
      cases hnode : root.get? place with
      | none => rw [h.none hnode]
      | some node =>
        cases node with
        | dir entries =>
          obtain ⟨entries', hdir', hsame⟩ := h.dir hnode
          rw [hdir']
          by_cases hstay : name = "" ∨ name = "."
          · simpa only [if_pos hstay] using ih place
          by_cases hup : name = ".."
          · simpa only [if_neg hstay, if_pos hup] using ih place.dropLast
          by_cases hwrite : atEnd = .write ∧ rest = [""]
          · simp only [if_neg hstay, if_neg hup, if_pos hwrite]
          by_cases hlong : Path.maxNameBytes < name.utf8ByteSize
          · simp only [if_neg hstay, if_neg hup, if_neg hwrite, if_pos hlong]
          simp only [if_neg hstay, if_neg hup, if_neg hwrite, if_neg hlong]
          have hname := hsame name
          cases hentry : entries.lookup name with
          | none =>
            rw [hentry, Option.map_none, Option.map_eq_none_iff] at hname
            rw [hname]
          | some child =>
            rw [hentry] at hname
            obtain ⟨child', hchild', hbare⟩ := Option.map_eq_some_iff.1 hname
            rw [hchild']
            rcases Node.eq_or_dirs_of_bare hbare with rfl | ⟨_, _, rfl, rfl⟩
            · cases child' with
              | link target =>
                by_cases hend : rest.isEmpty ∧ atEnd = .stay
                · simp only [if_pos hend]
                · simp only [if_neg hend]
                  cases links with
                  | zero => rfl
                  | succ links => exact ihLinks links (Nat.lt_succ_self links) _ _
              | _ => exact ih (place ++ [name])
            · exact ih (place ++ [name])
        | «sealed» forDirectory forFile =>
          rw [h.leaf hnode (by simp)]
          by_cases hstay : name = "" ∨ name = "."
          · simpa only [if_pos hstay] using ih place
          by_cases hup : name = ".."
          · simpa only [if_neg hstay, if_pos hup] using ih place.dropLast
          simp only [if_neg hstay, if_neg hup]
        | _ => rw [h.leaf hnode (by simp)]

/-- What stands where a walk ends is what the walk tells. -/
theorem get?_of_walkFrom {root node : Node} {atEnd : AtEnd} {links : Nat}
    {start steps place : List String}
    (h : walkFrom root atEnd links start steps = .ok (.node place node)) :
    root.get? place = some node := by
  fun_induction walkFrom root atEnd links start steps with
  | case10 _ place name _ _ hdir _ _ _ _ _ hentry _ =>
    -- a link at the end, which is an entry of the directory
    obtain ⟨rfl, rfl⟩ := Spot.node.inj (Except.ok.inj h)
    exact (get?_entry hdir name).trans hentry
  | _ => simp_all

/-- The node to which a path leads stands at a place. -/
theorem exists_place_of_node {d : Disk} {path : String} {node : Node} (h : d.node path = .ok node) :
    ∃ place, d.root.get? place = some node := by
  unfold Disk.node walk at h
  cases hrefused : refused path with
  | some fault => simp [hrefused] at h
  | none =>
    rw [hrefused] at h
    simp only at h
    split at h
    · next place node' hwalk =>
      obtain rfl := Except.ok.inj h
      exact ⟨place, get?_of_walkFrom hwalk⟩
    · simp at h
    · simp at h

theorem spots_of_bare {x y : Except Fault Spot} (h : y.map Spot.bare = x.map Spot.bare) :
    (∃ fault, x = .error fault ∧ y = .error fault) ∨
      (∃ directory name, x = .ok (.vacant directory name) ∧ y = .ok (.vacant directory name)) ∨
      ∃ place node node', x = .ok (.node place node) ∧ y = .ok (.node place node') := by
  rcases x with _ | ⟨place, node⟩ | _ <;> rcases y with _ | ⟨place', node'⟩ | _ <;>
    simp_all [Except.map, Spot.bare]

/-- The disks are the same but for the order in which directories list their entries. -/
structure Relisted (d d' : Disk) : Prop where
  here : d'.here = d.here
  root : d.root.Relisted d'.root

/-- A path leads to nodes that hold the same at every place below them, or nowhere for the same
fault. -/
theorem node_relisted {d d' : Disk} (h : d.Relisted d') (path : String) :
    (∃ fault, d.node path = .error fault ∧ d'.node path = .error fault) ∨
      ∃ node node', d.node path = .ok node ∧ d'.node path = .ok node' ∧ node.Relisted node' := by
  unfold Disk.node walk
  cases refused path with
  | some fault => exact .inl ⟨fault, rfl, rfl⟩
  | none =>
    have hwalk := walkFrom_relisted h.root .follow maxLinks (start d.here path) (Path.steps path)
    rw [h.here]
    rcases spots_of_bare hwalk with ⟨fault, hx, hy⟩ | ⟨directory, name, hx, hy⟩ |
      ⟨place, node, node', hx, hy⟩
    · rw [hx, hy]
      exact .inl ⟨fault, rfl, rfl⟩
    · rw [hx, hy]
      exact .inl ⟨.notFound, rfl, rfl⟩
    · -- the nodes stand at one place, where the trees hold the same
      obtain ⟨node'', hnode'', -, hsame⟩ := h.root.some (get?_of_walkFrom hx)
      obtain rfl := Option.some.inj (hnode''.symm.trans (get?_of_walkFrom hy))
      rw [hx, hy]
      exact .inr ⟨node, node'', rfl, rfl, hsame⟩

end ContractBindings.Disk
