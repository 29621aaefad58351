import ContractBindings.Disk.Order
import Mathlib.Data.String.Basic

/-!
# Nodes by place

A tree of nodes is known by what stands at each place in it, apart from what is below (`bare`).

1. `get?_set_append`, `bare_set`: what `set` does at a place, below it and elsewhere;
   `bare_set_leaf` says it of a node that has nothing below it.
2. `byEntries`: induction on what is below a node.
3. `Ordered.ext`: two trees in order that have the same at each place are the same tree.
4. `arranged_of_ordered`: a tree in order is brought in order by leaving it alone.
-/

namespace ContractBindings.Disk.Node

/-! ## Places -/

/-- Nothing stands below a place where nothing can. -/
theorem get?_below {node : Node} {p : List String} (h : ∀ n, node.get? p = some n → n.entries = [])
    (name : String) (rest : List String) : node.get? (p ++ name :: rest) = none := by
  rw [get?_append]
  cases hp : node.get? p with
  | none => rfl
  | some n => simp [get?_cons, h n hp]

/-- What stands below a directory stands at or below one of its entries. -/
theorem exists_entry_of_get? {entries : List (String × Node)} {name : String} {rest : List String}
    {node : Node} (h : (dir entries).get? (name :: rest) = some node) :
    ∃ child, (name, child) ∈ entries ∧ child.get? rest = some node := by
  rw [get?_cons] at h
  obtain ⟨child, hchild, hget⟩ := Option.bind_eq_some_iff.1 h
  exact ⟨child, mem_of_lookup hchild, hget⟩

/-- Another entry leads where it did. -/
theorem get?_setEntry {name k : String} (hk : k ≠ name) (node : Node)
    (entries : List (String × Node)) (rest : List String) :
    (dir (setEntry name node entries)).get? (k :: rest) = (dir entries).get? (k :: rest) := by
  simp [get?_cons, Node.entries, lookup_setEntry, hk]

/-! ## Setting a node -/

/-- The directory that holds what is put at a place is there. -/
def Holds (root : Node) (place : List String) : Prop :=
  place = [] ∨ ∃ entries, root.get? place.dropLast = some (dir entries)

theorem holds_append {root : Node} {p : List String} {entries : List (String × Node)}
    (h : root.get? p = some (dir entries)) (name : String) : Holds root (p ++ [name]) :=
  .inr ⟨entries, by rwa [List.dropLast_concat]⟩

/-- What stands at a place is held there. -/
theorem holds_of_get? {root : Node} {place : List String} {node : Node}
    (h : root.get? place = some node) : Holds root place := by
  rcases List.eq_nil_or_concat place with rfl | ⟨p, name, rfl⟩
  · exact .inl rfl
  · rw [List.concat_eq_append, get?_append] at h
    obtain ⟨parent, hparent, hchild⟩ := Option.bind_eq_some_iff.1 h
    cases parent with
    | dir entries => exact List.concat_eq_append ▸ holds_append hparent name
    | _ => simp [get?_cons, entries] at hchild

/-- Where a longer place is held, its first name leads to a node that holds the rest. -/
theorem holds_cons_cons {root : Node} {name name' : String} {rest : List String}
    (h : Holds root (name :: name' :: rest)) :
    ∃ entries child, root = dir entries ∧ entries.lookup name = some child ∧
      Holds child (name' :: rest) := by
  rcases h with h | ⟨below, h⟩
  · simp at h
  · rw [List.dropLast_cons_cons, get?_cons] at h
    obtain ⟨child, hchild, hbelow⟩ := Option.bind_eq_some_iff.1 h
    cases root with
    | dir entries => exact ⟨entries, child, rfl, hchild, .inr ⟨below, hbelow⟩⟩
    | _ => simp [Node.entries] at hchild

theorem holds_singleton {root : Node} {name : String} (h : Holds root [name]) :
    ∃ entries, root = dir entries := by
  rcases h with h | ⟨entries, h⟩
  · simp at h
  · exact ⟨entries, by simpa using h⟩

theorem get?_set_append {new root : Node} {place : List String} (h : Holds root place)
    (q : List String) : (set new root place).get? (place ++ q) = new.get? q := by
  induction place generalizing root with
  | nil => cases root <;> rfl
  | cons name rest ih =>
    cases rest with
    | nil =>
      obtain ⟨entries, rfl⟩ := holds_singleton h
      simp [set, get?_cons, Node.entries, lookup_setEntry]
    | cons name' rest =>
      obtain ⟨entries, child, rfl, hchild, hrest⟩ := holds_cons_cons h
      rw [set, hchild]
      · simp only [List.cons_append, get?_cons (dir _), Node.entries]
        rw [lookup_replaceEntry (by simp [hchild])]
        simpa using ih hrest
      · simp

theorem get?_set_self {new root : Node} {place : List String} (h : Holds root place) :
    (set new root place).get? place = some new := by
  simpa using @get?_set_append new root place h []

/-- Setting a node changes nothing at places that are not at or below its own. -/
theorem bare_set {new root : Node} {place : List String} (h : Holds root place)
    {q : List String} (hq : ¬place <+: q) :
    ((set new root place).get? q).map bare = (root.get? q).map bare := by
  induction place generalizing root q with
  | nil => exact absurd q.nil_prefix hq
  | cons name rest ih =>
    cases q with
    | nil =>
      cases rest with
      | nil =>
        obtain ⟨entries, rfl⟩ := holds_singleton h
        simp [set]
      | cons name' rest =>
        obtain ⟨entries, child, rfl, hchild, hrest⟩ := holds_cons_cons h
        rw [set, hchild]
        · simp
        · simp
    | cons k q =>
      cases rest with
      | nil =>
        obtain ⟨entries, rfl⟩ := holds_singleton h
        have hk : k ≠ name := by
          rintro rfl
          exact hq ⟨q, rfl⟩
        simp [set, get?_cons, Node.entries, lookup_setEntry, hk]
      | cons name' rest =>
        obtain ⟨entries, child, rfl, hchild, hrest⟩ := holds_cons_cons h
        rw [set, hchild]
        · simp only [get?_cons (dir _), Node.entries]
          rw [lookup_replaceEntry (by simp [hchild])]
          by_cases hk : k = name
          · subst hk
            have hq' : ¬(name' :: rest) <+: q := fun hp => hq (List.cons_prefix_cons.2 ⟨rfl, hp⟩)
            simpa [hchild] using ih hrest hq'
          · simp [hk]
        · simp

/-- A node with nothing below it, set where nothing was below either, changes its own place only. -/
theorem bare_set_leaf {new root : Node} {place : List String} (h : Holds root place)
    (hold : ∀ n, root.get? place = some n → n.entries = []) (hnew : new.entries = [])
    (q : List String) :
    ((set new root place).get? q).map bare =
      if q = place then some new.bare else (root.get? q).map bare := by
  by_cases hq : place <+: q
  · -- at the place or below it, where there is nothing before and after
    obtain ⟨below, rfl⟩ := hq
    rw [get?_set_append h]
    cases below with
    | nil => simp
    | cons name rest =>
      rw [get?_below hold, get?_cons, hnew]
      simp
  · have hne : q ≠ place := by
      rintro rfl
      exact hq (List.prefix_refl q)
    rw [bare_set h hq, if_neg hne]

/-! ## Rewriting a file -/

theorem get?_rewriteAll (identity : Nat) (time : Int) (bytes : ByteArray)
    (entries : List (String × Node)) (p : List String) :
    (dir (rewriteAll identity time bytes entries)).get? p =
      ((dir entries).get? p).map (rewrite identity time bytes) := by
  rw [← get?_rewrite, rewrite]

theorem bare_rewrite (identity : Nat) (time : Int) (bytes : ByteArray) (node : Node) :
    (rewrite identity time bytes node).bare = rewrite identity time bytes node.bare := by
  cases node with
  | file old attributes =>
    rw [bare_file, rewrite]
    split <;> rfl
  | _ => simp [rewrite, rewriteAll]

/-! ## Order -/

/-- Entries in order are known by what each name leads to. -/
theorem entries_ext {es fs : List (String × Node)} (hes : (es.map Prod.fst).Pairwise (· < ·))
    (hfs : (fs.map Prod.fst).Pairwise (· < ·)) (h : ∀ k, es.lookup k = fs.lookup k) : es = fs := by
  have absent {name : String} {rest : List (String × Node)}
      (hrest : ∀ k ∈ rest.map Prod.fst, name < k) : rest.lookup name = none := by
    rw [List.lookup_eq_none_iff]
    intro e he
    have hlt := hrest e.1 (List.mem_map_of_mem he)
    simpa using ne_of_lt hlt
  induction es generalizing fs with
  | nil =>
    cases fs with
    | nil => rfl
    | cons f fs =>
      have := h f.1
      rw [lookup_cons_ite, if_pos rfl] at this
      simp at this
  | cons e es ih =>
    cases fs with
    | nil =>
      have := h e.1
      rw [lookup_cons_ite, if_pos rfl] at this
      simp at this
    | cons f fs =>
      obtain ⟨n, a⟩ := e
      obtain ⟨m, b⟩ := f
      rw [List.map_cons, List.pairwise_cons] at hes hfs
      have hn := h n
      have hm := h m
      simp only [lookup_cons_ite, if_true] at hn hm
      -- the first name of each list is its least, so the two are the same
      have hnm : n = m := by
        by_contra hnm
        rw [if_neg hnm] at hn
        rw [if_neg (Ne.symm hnm)] at hm
        rcases lt_or_gt_of_ne hnm with hlt | hlt
        · rw [absent fun k hk => String.lt_trans hlt (hfs.1 k hk)] at hn
          simp at hn
        · rw [absent fun k hk => String.lt_trans hlt (hes.1 k hk)] at hm
          simp at hm
      subst hnm
      rw [if_pos rfl, Option.some.injEq] at hn
      subst hn
      rw [ih hes.2 hfs.2 ?_]
      intro k
      have hk := h k
      rw [lookup_cons_ite, lookup_cons_ite] at hk
      split at hk
      · next hkn =>
        subst hkn
        rw [absent hes.1, absent hfs.1]
      · exact hk

theorem sizeOf_lookup_lt {node child : Node} {name : String}
    (h : node.entries.lookup name = some child) : sizeOf child < sizeOf node := by
  cases node with
  | dir entries =>
    have hmem : (name, child) ∈ entries := mem_of_lookup h
    have := List.sizeOf_lt_of_mem hmem
    simp only [Prod.mk.sizeOf_spec] at this
    simp only [dir.sizeOf_spec]
    omega
  | _ => simp [Node.entries] at h

/-- What holds of a node if it holds of its entries holds of all nodes. -/
@[elab_as_elim] theorem byEntries {motive : Node → Prop} (node : Node)
    (step : ∀ node, (∀ name child, node.entries.lookup name = some child → motive child) →
      motive node) : motive node :=
  step node fun _ child h =>
    have := sizeOf_lookup_lt h
    byEntries child step
termination_by sizeOf node

/-- Only directories can differ in what is below them. -/
theorem eq_or_dirs_of_bare {m n : Node} (h : m.bare = n.bare) :
    m = n ∨ ∃ es fs, m = dir es ∧ n = dir fs := by
  cases m <;> cases n <;> simp_all [bare]

/-- Trees in order that have the same at each place are the same. -/
theorem Ordered.ext {m n : Node} (hm : m.Ordered) (hn : n.Ordered)
    (h : ∀ p, (m.get? p).map bare = (n.get? p).map bare) : m = n := by
  induction m using byEntries generalizing n with
  | step m ih =>
    rcases eq_or_dirs_of_bare (m := m) (n := n) (by simpa using h []) with
      heq | ⟨es, fs, rfl, rfl⟩
    · exact heq
    · rw [dir.injEq]
      refine entries_ext hm.keys hn.keys ?_
      intro k
      -- a name that only one of the two has would show at its own place
      have hk (p : List String) : ((es.lookup k).bind (·.get? p)).map bare =
          ((fs.lookup k).bind (·.get? p)).map bare := by
        simpa only [get?_cons, Node.entries] using h (k :: p)
      cases he : es.lookup k with
      | none =>
        cases hf : fs.lookup k with
        | none => rfl
        | some b =>
          have := hk []
          simp [he, hf] at this
      | some a =>
        cases hf : fs.lookup k with
        | none =>
          have := hk []
          simp [he, hf] at this
        | some b =>
          rw [ih k a he (hm.child he) (hn.child hf) (by simpa [he, hf] using hk)]

/-! ## Bringing in order -/

theorem bare_arranged (node : Node) : node.arranged.bare = node.bare := by
  cases node <;> simp [arranged]

theorem arranged_of_ordered {node : Node} (h : node.Ordered) : node.arranged = node := by
  refine Ordered.ext (ordered_arranged node) h ?_
  intro p
  rw [get?_arranged, Option.map_map]
  congr 1
  funext n
  exact bare_arranged n

end ContractBindings.Disk.Node
