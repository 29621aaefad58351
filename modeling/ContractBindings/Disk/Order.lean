import ContractBindings.Disk.Node

/-!
# Order

The names of the entries of a directory stand in byte order, each once. Whatever is done to a tree in
order leaves it in order, and a tree can be brought in order without changing where a path leads.

1. `ordered_set`, `ordered_erase`, `ordered_rewrite`: what puts a node at a place, takes one away or
   changes a file keeps the order.
2. `ordered_arranged`, `get?_arranged`: a tree that is brought in order is in order, and has the same
   at each place.
-/

namespace ContractBindings.Disk.Node

/-! ## Places -/

/-- The node without what is below it. -/
def bare : Node → Node
  | dir _ => dir []
  | node => node

@[simp] theorem bare_file (bytes : ByteArray) (attributes : Attributes) :
    (file bytes attributes).bare = file bytes attributes := rfl

@[simp] theorem bare_link (target : String) : (link target).bare = link target := rfl

@[simp] theorem bare_dir (entries : List (String × Node)) : (dir entries).bare = dir [] := rfl

@[simp] theorem bare_device (device : Device) : (Node.device device).bare = .device device := rfl

@[simp] theorem bare_sealed (forDirectory forFile : Fault) :
    (sealed forDirectory forFile).bare = sealed forDirectory forFile := rfl

@[simp] theorem entries_bare (node : Node) : node.bare.entries = [] := by
  cases node <;> rfl

@[simp] theorem get?_nil (node : Node) : node.get? [] = some node := by
  cases node <;> rfl

theorem get?_cons (node : Node) (name : String) (rest : List String) :
    node.get? (name :: rest) = (node.entries.lookup name).bind (·.get? rest) := by
  cases node <;> rfl

theorem get?_append (node : Node) (p q : List String) :
    node.get? (p ++ q) = (node.get? p).bind (·.get? q) := by
  induction p generalizing node with
  | nil => simp
  | cons name p ih =>
    rw [List.cons_append, get?_cons, get?_cons, Option.bind_assoc]
    congr 1
    funext child
    exact ih child

/-! ## Entries -/

theorem lookup_cons_ite (k name : String) (node : Node) (rest : List (String × Node)) :
    ((name, node) :: rest).lookup k = if k = name then some node else rest.lookup k := by
  rw [List.lookup_cons]
  by_cases hk : k = name
  · simp [hk]
  · rw [if_neg hk, beq_false_of_ne hk]

theorem mem_of_lookup {name : String} {node : Node} {entries : List (String × Node)}
    (h : entries.lookup name = some node) : (name, node) ∈ entries := by
  obtain ⟨before, after, hsplit, -⟩ := List.lookup_eq_some_iff.1 h
  rw [show entries = _ from hsplit]
  simp

theorem lookup_replaceEntry {name : String} {node : Node} {entries : List (String × Node)}
    (h : entries.lookup name ≠ none) (k : String) :
    (replaceEntry name node entries).lookup k =
      if k = name then some node else entries.lookup k := by
  induction entries with
  | nil => exact absurd rfl h
  | cons e rest ih =>
    obtain ⟨n, child⟩ := e
    rw [lookup_cons_ite] at h ⊢
    simp only [replaceEntry]
    split
    · next hn =>
      subst hn
      rw [lookup_cons_ite]
      split <;> rfl
    · next hn =>
      rw [if_neg (Ne.symm hn)] at h
      rw [lookup_cons_ite, ih h]
      split
      · next hk => rw [if_neg (hk ▸ hn)]
      · rfl

theorem lookup_insertEntry {name : String} {node : Node} {entries : List (String × Node)}
    (h : entries.lookup name = none) (k : String) :
    (insertEntry name node entries).lookup k =
      if k = name then some node else entries.lookup k := by
  induction entries with
  | nil => simp only [insertEntry, lookup_cons_ite]
  | cons e rest ih =>
    obtain ⟨n, child⟩ := e
    simp only [insertEntry]
    split
    · rw [lookup_cons_ite]
    · rw [lookup_cons_ite] at h ⊢
      have hn : name ≠ n := by
        intro hn
        rw [if_pos hn] at h
        simp at h
      rw [if_neg hn] at h
      rw [lookup_cons_ite, ih h]
      split
      · next hk => rw [if_neg (hk ▸ Ne.symm hn)]
      · rfl

theorem lookup_setEntry (name : String) (node : Node) (entries : List (String × Node))
    (k : String) :
    (setEntry name node entries).lookup k =
      if k = name then some node else entries.lookup k := by
  unfold setEntry
  split
  · next h => exact lookup_replaceEntry (Option.isSome_iff_ne_none.1 h) k
  · next h => exact lookup_insertEntry (Option.not_isSome_iff_eq_none.1 h) k

/-! ## Order -/

/-- The names of the entries of each directory, at any depth, are in byte order, each once. -/
def Ordered (node : Node) : Prop :=
  ∀ place entries, node.get? place = some (dir entries) →
    (entries.map Prod.fst).Pairwise (· < ·)

theorem Ordered.child {entries : List (String × Node)} {name : String} {child : Node}
    (h : (dir entries).Ordered) (hchild : entries.lookup name = some child) : child.Ordered := by
  intro place below hbelow
  refine h (name :: place) below ?_
  rw [get?_cons]
  simpa [Node.entries, hchild] using hbelow

theorem Ordered.below {root node : Node} {place : List String} (h : root.Ordered)
    (hnode : root.get? place = some node) : node.Ordered := by
  intro q entries hq
  refine h (place ++ q) entries ?_
  rw [get?_append, hnode]
  exact hq

theorem ordered_dir {entries : List (String × Node)}
    (hkeys : (entries.map Prod.fst).Pairwise (· < ·))
    (hchildren : ∀ name child, entries.lookup name = some child → child.Ordered) :
    (dir entries).Ordered := by
  intro place below hbelow
  cases place with
  | nil =>
    rw [get?_nil, Option.some.injEq, dir.injEq] at hbelow
    exact hbelow ▸ hkeys
  | cons name place =>
    rw [get?_cons] at hbelow
    obtain ⟨child, hchild, hbelow⟩ := Option.bind_eq_some_iff.1 hbelow
    exact hchildren name child hchild place below hbelow

theorem ordered_of_entries {entries : List (String × Node)}
    (hkeys : (entries.map Prod.fst).Pairwise (· < ·)) (hchildren : ∀ e ∈ entries, e.2.Ordered) :
    (dir entries).Ordered :=
  ordered_dir hkeys fun name child h => hchildren (name, child) (mem_of_lookup h)

theorem ordered_of_leaf {node : Node} (h : node.entries = []) : node.Ordered := by
  intro place entries hplace
  cases place with
  | nil =>
    rw [get?_nil, Option.some.injEq] at hplace
    rw [hplace] at h
    have h : entries = [] := h
    simp [h]
  | cons name place =>
    rw [get?_cons, h] at hplace
    simp at hplace

theorem Ordered.keys {entries : List (String × Node)} (h : (dir entries).Ordered) :
    (entries.map Prod.fst).Pairwise (· < ·) :=
  h [] entries (get?_nil _)

/-! ## Setting a node -/

theorem keys_replaceEntry (name : String) (node : Node) (entries : List (String × Node)) :
    (replaceEntry name node entries).map Prod.fst = entries.map Prod.fst := by
  induction entries with
  | nil => rfl
  | cons e rest ih =>
    rw [replaceEntry]
    split
    · next hn => simp [hn]
    · simp [ih]

theorem mem_keys_insertEntry {name k : String} {node : Node} {entries : List (String × Node)}
    (h : k ∈ (insertEntry name node entries).map Prod.fst) :
    k = name ∨ k ∈ entries.map Prod.fst := by
  induction entries with
  | nil => simpa [insertEntry] using h
  | cons e rest ih =>
    rw [insertEntry] at h
    split at h
    · simpa using h
    · rw [List.map_cons, List.mem_cons] at h ⊢
      rcases h with h | h
      · exact .inr (.inl h)
      · exact (ih h).imp_right .inr

theorem pairwise_insertEntry {name : String} {node : Node} {entries : List (String × Node)}
    (h : entries.lookup name = none) (hkeys : (entries.map Prod.fst).Pairwise (· < ·)) :
    ((insertEntry name node entries).map Prod.fst).Pairwise (· < ·) := by
  induction entries with
  | nil => simp [insertEntry]
  | cons e rest ih =>
    obtain ⟨n, child⟩ := e
    rw [List.map_cons, List.pairwise_cons] at hkeys
    simp only [insertEntry]
    split
    · next hlt =>
      rw [List.map_cons, List.map_cons, List.pairwise_cons, List.pairwise_cons]
      refine ⟨?_, hkeys⟩
      intro k hk
      rw [List.mem_cons] at hk
      rcases hk with rfl | hk
      · exact hlt
      · exact String.lt_trans hlt (hkeys.1 k hk)
    · next hlt =>
      rw [lookup_cons_ite] at h
      split at h
      · simp at h
      · next hne =>
        have hnlt : n < name :=
          Std.lt_of_le_of_ne (String.not_lt.1 hlt) (Ne.symm hne)
        rw [List.map_cons, List.pairwise_cons]
        refine ⟨?_, ih h hkeys.2⟩
        intro k hk
        rcases mem_keys_insertEntry hk with rfl | hk
        · exact hnlt
        · exact hkeys.1 k hk

theorem pairwise_setEntry {name : String} {node : Node} {entries : List (String × Node)}
    (hkeys : (entries.map Prod.fst).Pairwise (· < ·)) :
    ((setEntry name node entries).map Prod.fst).Pairwise (· < ·) := by
  unfold setEntry
  split
  · rwa [keys_replaceEntry]
  · next h => exact pairwise_insertEntry (Option.not_isSome_iff_eq_none.1 h) hkeys

theorem ordered_setEntry {name : String} {new : Node} {entries : List (String × Node)}
    (hnew : new.Ordered) (h : (dir entries).Ordered) : (dir (setEntry name new entries)).Ordered := by
  refine ordered_dir (pairwise_setEntry h.keys) ?_
  intro k child hchild
  rw [lookup_setEntry] at hchild
  split at hchild
  · exact Option.some.inj hchild ▸ hnew
  · exact h.child hchild

theorem ordered_replaceEntry {name : String} {old new : Node} {entries : List (String × Node)}
    (hold : entries.lookup name = some old) (hnew : new.Ordered) (h : (dir entries).Ordered) :
    (dir (replaceEntry name new entries)).Ordered := by
  refine ordered_dir (by rw [keys_replaceEntry]; exact h.keys) ?_
  intro k child hchild
  rw [lookup_replaceEntry (by simp [hold])] at hchild
  split at hchild
  · exact Option.some.inj hchild ▸ hnew
  · exact h.child hchild

theorem ordered_set {new root : Node} (place : List String) (hnew : new.Ordered)
    (hroot : root.Ordered) : (set new root place).Ordered := by
  induction place generalizing root with
  | nil => cases root <;> exact hnew
  | cons name rest ih =>
    cases root with
    | dir entries =>
      cases rest with
      | nil => exact ordered_setEntry hnew hroot
      | cons name' rest =>
        rw [set]
        · split
          · next child hchild => exact ordered_replaceEntry hchild (ih (hroot.child hchild)) hroot
          · exact hroot
        · simp
    | _ => simpa [set] using hroot

/-! ## Taking a node away -/

theorem lookup_filter_ne (name k : String) (entries : List (String × Node)) :
    (entries.filter (·.1 != name)).lookup k = if k = name then none else entries.lookup k := by
  induction entries with
  | nil => simp
  | cons e rest ih =>
    obtain ⟨n, child⟩ := e
    rw [List.filter_cons]
    by_cases hn : n = name
    · subst hn
      rw [if_neg (by simp), ih, lookup_cons_ite]
      split <;> rfl
    · rw [if_pos (by simpa using hn), lookup_cons_ite, lookup_cons_ite, ih]
      by_cases hk : k = n
      · rw [if_pos hk, if_neg (hk ▸ hn), if_pos hk]
      · rw [if_neg hk, if_neg hk]

theorem ordered_erase {root : Node} (place : List String) (hroot : root.Ordered) :
    (root.erase place).Ordered := by
  induction place generalizing root with
  | nil => cases root <;> exact hroot
  | cons name rest ih =>
    cases root with
    | dir entries =>
      cases rest with
      | nil =>
        refine ordered_dir (hroot.keys.sublist (List.filter_sublist.map _)) ?_
        intro k child hchild
        rw [lookup_filter_ne] at hchild
        split at hchild
        · simp at hchild
        · exact hroot.child hchild
      | cons name' rest =>
        rw [erase]
        · split
          · next child hchild => exact ordered_replaceEntry hchild (ih (hroot.child hchild)) hroot
          · exact hroot
        · simp
    | _ => exact hroot

/-! ## Rewriting a file -/

theorem lookup_rewriteAll (identity : Nat) (time : Int) (bytes : ByteArray)
    (entries : List (String × Node)) (k : String) :
    (rewriteAll identity time bytes entries).lookup k =
      (entries.lookup k).map (rewrite identity time bytes) := by
  induction entries with
  | nil => simp [rewriteAll]
  | cons e rest ih =>
    obtain ⟨n, child⟩ := e
    rw [rewriteAll, List.lookup_cons, List.lookup_cons, ih]
    split <;> rfl

theorem entries_rewrite (identity : Nat) (time : Int) (bytes : ByteArray) (node : Node) :
    (rewrite identity time bytes node).entries =
      rewriteAll identity time bytes node.entries := by
  cases node with
  | file old attributes =>
    rw [rewrite]
    split <;> simp [Node.entries, rewriteAll]
  | _ => simp [rewrite, Node.entries, rewriteAll]

theorem get?_rewrite (identity : Nat) (time : Int) (bytes : ByteArray) (node : Node)
    (p : List String) :
    (rewrite identity time bytes node).get? p =
      (node.get? p).map (rewrite identity time bytes) := by
  induction p generalizing node with
  | nil => simp
  | cons name p ih =>
    rw [get?_cons, get?_cons, entries_rewrite, lookup_rewriteAll, Option.map_bind,
      Option.bind_map]
    congr 1
    funext child
    exact ih child

theorem keys_rewriteAll (identity : Nat) (time : Int) (bytes : ByteArray)
    (entries : List (String × Node)) :
    (rewriteAll identity time bytes entries).map Prod.fst = entries.map Prod.fst := by
  induction entries with
  | nil => rfl
  | cons e rest ih =>
    obtain ⟨n, child⟩ := e
    simp [rewriteAll, ih]

theorem rewrite_eq_dir {identity : Nat} {time : Int} {bytes : ByteArray} {node : Node}
    {entries : List (String × Node)} (h : rewrite identity time bytes node = dir entries) :
    ∃ old, node = dir old ∧ entries = rewriteAll identity time bytes old := by
  cases node with
  | file old attributes =>
    rw [rewrite] at h
    split at h <;> simp at h
  | dir old =>
    rw [rewrite, dir.injEq] at h
    exact ⟨old, rfl, h.symm⟩
  | _ => simp [rewrite] at h

theorem ordered_rewrite {identity : Nat} {time : Int} {bytes : ByteArray} {node : Node}
    (h : node.Ordered) : (rewrite identity time bytes node).Ordered := by
  intro place entries hplace
  rw [get?_rewrite] at hplace
  obtain ⟨n, hn, hdir⟩ := Option.map_eq_some_iff.1 hplace
  obtain ⟨old, rfl, rfl⟩ := rewrite_eq_dir hdir
  rw [keys_rewriteAll]
  exact h place old hn

/-! ## Bringing in order -/

mutual

/-- The node with the entries of each directory in order. Of two entries with one name the first
counts, as for a path. -/
def arranged : Node → Node
  | dir entries => dir (arrangedAll entries)
  | node => node

/-- The entries in order. -/
def arrangedAll : List (String × Node) → List (String × Node)
  | [] => []
  | (name, node) :: rest => setEntry name (arranged node) (arrangedAll rest)

end

theorem lookup_arrangedAll (entries : List (String × Node)) (k : String) :
    (arrangedAll entries).lookup k = (entries.lookup k).map arranged := by
  induction entries with
  | nil => simp [arrangedAll]
  | cons e rest ih =>
    obtain ⟨n, child⟩ := e
    rw [arrangedAll, lookup_setEntry, lookup_cons_ite, ih]
    split <;> rfl

theorem entries_arranged (node : Node) : node.arranged.entries = arrangedAll node.entries := by
  cases node <;> simp [arranged, arrangedAll, Node.entries]

theorem get?_arranged (node : Node) (p : List String) :
    node.arranged.get? p = (node.get? p).map arranged := by
  induction p generalizing node with
  | nil => simp
  | cons name p ih =>
    rw [get?_cons, get?_cons, entries_arranged, lookup_arrangedAll, Option.map_bind,
      Option.bind_map]
    congr 1
    funext child
    exact ih child

theorem pairwise_arrangedAll (entries : List (String × Node)) :
    ((arrangedAll entries).map Prod.fst).Pairwise (· < ·) := by
  induction entries with
  | nil => simp [arrangedAll]
  | cons e rest ih =>
    rw [arrangedAll]
    exact pairwise_setEntry ih

theorem ordered_arranged (node : Node) : node.arranged.Ordered := by
  intro place entries hplace
  rw [get?_arranged] at hplace
  obtain ⟨n, -, hdir⟩ := Option.map_eq_some_iff.1 hplace
  cases n with
  | dir old =>
    rw [arranged, dir.injEq] at hdir
    exact hdir ▸ pairwise_arrangedAll old
  | _ => simp [arranged] at hdir

end ContractBindings.Disk.Node
