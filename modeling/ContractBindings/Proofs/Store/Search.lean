import ContractBindings.Proofs.Disk.Path
import ContractBindings.Proofs.Disk.Write
import ContractBindings.Store.Search

/-!
# Searching a tree again

A search finds the first of the files of a name, in the order of the entries. Writing other files,
and making directories, does not change what it finds.

1. `path_searchEntries`: in a tree in order, a search is the first of the searches of the entries.
2. `findSome?_grown`: entries that find nothing change nothing for the others.
3. `path_find_again`: a search after progress finds what it found before.
4. `exists_join_of_find`, `leads_of_find`: the path that a search finds ends in the name of the
   file, and leads to one.
-/

namespace ContractBindings.Disk

/-! ## Searches in order -/

theorem path_first (searches : List Search) :
    (Search.first searches).path = searches.findSome? Search.path := by
  induction searches with
  | nil => rfl
  | cons x rest ih =>
    rw [Search.first, List.findSome?_cons]
    cases hpath : x.path with
    | none => exact ih
    | some path => exact hpath

theorem searchEach_eq (file path : String) (entries : List (String × Node)) :
    searchEach file path entries =
      entries.map fun e => (e.1, searchNode file e.1 (Path.join path e.1) e.2) := by
  induction entries with
  | nil => rw [searchEach, List.map_nil]
  | cons e rest ih => rw [searchEach, ih, List.map_cons]

theorem sorted_of_pairwise {α : Type} {entries : List (String × α)}
    (h : (entries.map Prod.fst).Pairwise (· < ·)) : Node.sorted entries = entries := by
  refine List.mergeSort_of_pairwise ?_
  rw [List.pairwise_map] at h
  exact h.imp fun hlt => decide_eq_true (le_of_lt hlt)

/-- A search of entries is the first of their searches, by name, that finds something. -/
theorem path_searchEntries_sorted (file path : String) (entries : List (String × Node)) :
    (searchEntries file path entries).path =
      if (refused path).isSome then none
      else (Node.sorted entries).findSome? fun e =>
        (searchNode file e.1 (Path.join path e.1) e.2).path := by
  rw [searchEntries]
  cases refused path with
  | some fault => rfl
  | none =>
    have hsorted : Node.sorted (searchEach file path entries) =
        (Node.sorted entries).map fun e => (e.1, searchNode file e.1 (Path.join path e.1) e.2) := by
      rw [searchEach_eq, Node.sorted, Node.sorted, List.map_mergeSort]
      exact fun _ _ _ _ => rfl
    rw [path_first, hsorted, List.map_map, List.findSome?_map]
    rfl

/-- A search of entries in order is the first of their searches that finds something. -/
theorem path_searchEntries {file path : String} {entries : List (String × Node)}
    (hkeys : (entries.map Prod.fst).Pairwise (· < ·)) :
    (searchEntries file path entries).path =
      if (refused path).isSome then none
      else entries.findSome? fun e => (searchNode file e.1 (Path.join path e.1) e.2).path := by
  rw [path_searchEntries_sorted, sorted_of_pairwise hkeys]

/-! ## Entries that are added -/

theorem mem_keys_of_lookup {entries : List (String × Node)} {k : String} {node : Node}
    (h : entries.lookup k = some node) : k ∈ entries.map Prod.fst :=
  List.mem_map_of_mem (Node.mem_of_lookup h)

theorem lookup_of_mem {entries : List (String × Node)} {k : String} {node : Node}
    (hkeys : (entries.map Prod.fst).Pairwise (· < ·)) (h : (k, node) ∈ entries) :
    entries.lookup k = some node := by
  obtain ⟨before, after, rfl⟩ := List.append_of_mem h
  refine List.lookup_eq_some_iff.2 ⟨before, after, rfl, ?_⟩
  intro e he
  rw [List.map_append, List.pairwise_append] at hkeys
  have hlt : e.1 < k := hkeys.2.2 e.1 (List.mem_map_of_mem he) k (by simp)
  simpa using ne_of_gt hlt

/-- The entry that no other comes before is the first. -/
theorem exists_cons_of_least {entries : List (String × Node)} {k : String} {node : Node}
    (hkeys : (entries.map Prod.fst).Pairwise (· < ·))
    (hleast : ∀ k' ∈ entries.map Prod.fst, ¬k' < k) (h : entries.lookup k = some node) :
    ∃ rest, entries = (k, node) :: rest := by
  cases entries with
  | nil => simp at h
  | cons e rest =>
    obtain ⟨k', node'⟩ := e
    rw [Node.lookup_cons_ite] at h
    split at h
    · next hfirst =>
      obtain rfl := Option.some.inj h
      exact ⟨rest, by rw [hfirst]⟩
    · rw [List.map_cons, List.pairwise_cons] at hkeys
      exact absurd (hkeys.1 k (mem_keys_of_lookup h)) (hleast k' List.mem_cons_self)

/-- Where more entries are searched, and those that are new find nothing, the first to find
something is the same. -/
theorem findSome?_grown {α : Type} {es fs : List (String × Node)} {f g : String × Node → Option α}
    (hes : (es.map Prod.fst).Pairwise (· < ·)) (hfs : (fs.map Prod.fst).Pairwise (· < ·))
    (hold : ∀ k m, es.lookup k = some m → ∃ n, fs.lookup k = some n ∧ g (k, n) = f (k, m))
    (hnew : ∀ k n, fs.lookup k = some n → es.lookup k = none → g (k, n) = none) :
    fs.findSome? g = es.findSome? f := by
  induction fs generalizing es with
  | nil =>
    cases es with
    | nil => rfl
    | cons e es =>
      obtain ⟨n, hn, -⟩ := hold e.1 e.2 (by rw [List.lookup_cons_self])
      simp at hn
  | cons e fs ih =>
    obtain ⟨k, n⟩ := e
    rw [List.map_cons, List.pairwise_cons] at hfs
    have hlater {k' : String} {n' : Node} (h : fs.lookup k' = some n') : k < k' :=
      hfs.1 k' (mem_keys_of_lookup h)
    have hfsLater {k' : String} (hne : k' ≠ k) :
        ((k, n) :: fs).lookup k' = fs.lookup k' := by
      rw [Node.lookup_cons_ite, if_neg hne]
    rw [List.findSome?_cons]
    cases hk : es.lookup k with
    | none =>
      -- the entry is new and finds nothing, so the others decide
      rw [hnew k n List.lookup_cons_self hk]
      refine ih hes hfs.2 ?_ ?_
      · intro k' m' hm'
        have hne : k' ≠ k := by
          rintro rfl
          simp [hk] at hm'
        rw [← hfsLater hne]
        exact hold k' m' hm'
      · intro k' n' hn' hnone
        exact hnew k' n' ((hfsLater (ne_of_gt (hlater hn'))).trans hn') hnone
    | some m =>
      obtain ⟨n', hn', hsame⟩ := hold k m hk
      obtain rfl := Option.some.inj (List.lookup_cons_self.symm.trans hn')
      have hleast (k' : String) (hk' : k' ∈ es.map Prod.fst) : ¬k' < k := by
        obtain ⟨⟨_, m'⟩, he, rfl⟩ := List.mem_map.1 hk'
        obtain ⟨n', hn', -⟩ := hold _ m' (lookup_of_mem hes he)
        rcases List.mem_cons.1 (mem_keys_of_lookup hn') with hhead | htail
        · exact fun hlt => absurd hhead (ne_of_lt hlt)
        · exact lt_asymm (hfs.1 _ htail)
      obtain ⟨es, rfl⟩ := exists_cons_of_least hes hleast hk
      rw [List.map_cons, List.pairwise_cons] at hes
      rw [List.findSome?_cons, hsame]
      have hrest : fs.findSome? g = es.findSome? f := by
        refine ih hes.2 hfs.2 ?_ ?_
        · intro k' m' hm'
          have hne : k' ≠ k := ne_of_gt (hes.1 k' (mem_keys_of_lookup hm'))
          rw [← hfsLater hne]
          refine hold k' m' ?_
          rw [Node.lookup_cons_ite, if_neg hne, hm']
        · intro k' n' hn' hnone
          have hne : k' ≠ k := ne_of_gt (hlater hn')
          refine hnew k' n' ((hfsLater hne).trans hn') ?_
          rw [Node.lookup_cons_ite, if_neg hne, hnone]
      cases f (k, m) with
      | none => exact hrest
      | some _ => rfl

/-! ## Searches after progress -/

section
variable {above : List String} {written : List (List String)} {d d' : Disk} {file : String}

/-- What progress puts where nothing stood has no file of another name. -/
theorem path_searchNode_new (h : Progress above written d d')
    (hfile : ∀ place ∈ written, place.getLast? ≠ some file) {node : Node} {place : List String}
    {name path : String} (hlast : place.getLast? = some name) (hnone : d.root.get? place = none)
    (hnode : d'.root.get? place = some node) (hordered : node.Ordered) :
    (searchNode file name path node).path = none := by
  induction node using Node.byEntries generalizing place name path with
  | step node ih =>
    have hlook := look_of_get? hnode
    cases node with
    | file bytes attributes =>
      have hne : name ≠ file := by
        rintro rfl
        by_cases hmem : place ∈ written
        · exact hfile place hmem hlast
        · rcases h.new (look_eq_none.2 hnone) hmem with hnone | hdir
          · simp [hnone] at hlook
          · simp [hdir] at hlook
      rw [searchNode, if_neg hne]
    | dir entries =>
      rw [searchNode, path_searchEntries hordered.keys]
      split
      · rfl
      · rw [List.findSome?_eq_none_iff]
        rintro ⟨k, child⟩ hentry
        have hchild := lookup_of_mem hordered.keys hentry
        -- what is below a new directory is new
        have hbelow : d.root.get? (place ++ [k]) = none := by
          rw [Node.get?_append, hnone]
          rfl
        have hchildNode : d'.root.get? (place ++ [k]) = some child := by
          rw [get?_entry hnode, hchild]
        exact ih k child hchild (List.getLast?_concat ..) hbelow hchildNode (hordered.child hchild)
    | _ => rw [searchNode]

theorem path_searchEntries_again (h : Progress above written d d')
    (hfile : ∀ place ∈ written, place.getLast? ≠ some file)
    {es fs : List (String × Node)} {place : List String} {path : String}
    (hes : d.root.get? place = some (.dir es)) (hfs : d'.root.get? place = some (.dir fs))
    (hordered : (Node.dir es).Ordered) (hordered' : (Node.dir fs).Ordered)
    (hsame : ∀ k m n, es.lookup k = some m → fs.lookup k = some n →
      (searchNode file k (Path.join path k) n).path =
        (searchNode file k (Path.join path k) m).path) :
    (searchEntries file path fs).path = (searchEntries file path es).path := by
  rw [path_searchEntries hordered.keys, path_searchEntries hordered'.keys]
  split
  · rfl
  · refine findSome?_grown hordered.keys hordered'.keys ?_ ?_
    · intro k m hm
      have hold : d.root.get? (place ++ [k]) = some m := (get?_entry hes k).trans hm
      obtain ⟨n, hnew, -⟩ := h.within _ m hold
      have hn : fs.lookup k = some n := (get?_entry hfs k).symm.trans hnew
      exact ⟨n, hn, hsame k m n hm hn⟩
    · intro k n hn hnone
      exact path_searchNode_new h hfile (List.getLast?_concat ..) ((get?_entry hes k).trans hnone)
        ((get?_entry hfs k).trans hn) (hordered'.child hn)

theorem path_searchNode_leaf {node : Node} (hleaf : node.isDir = false) (name path : String) :
    (searchNode file name path node).path =
      if node.isFile && name = file then some path else none := by
  cases node with
  | file _ _ =>
    rw [searchNode]
    split <;> simp_all [Node.isFile]
  | dir _ => simp [Node.isDir] at hleaf
  | _ => rw [searchNode]; rfl

/-- A search below a place finds after progress what it found before. -/
theorem path_searchNode_again (h : Progress above written d d')
    (hfile : ∀ place ∈ written, place.getLast? ≠ some file) {node node' : Node}
    {place : List String} {name path : String} (hnode : d.root.get? place = some node)
    (hnode' : d'.root.get? place = some node') (hordered : node.Ordered)
    (hordered' : node'.Ordered) :
    (searchNode file name path node').path = (searchNode file name path node).path := by
  induction node using Node.byEntries generalizing node' place name path with
  | step node ih =>
    have hlook := look_of_get? hnode
    have hlook' := look_of_get? hnode'
    rcases h.kept hlook with hsame | ⟨hleaf, leaf, hafter, hleaf', hisFile⟩
    · rw [hlook', Option.some.injEq] at hsame
      rcases Node.eq_or_dirs_of_bare hsame with rfl | ⟨fs, es, rfl, rfl⟩
      · rfl
      · rw [searchNode, searchNode]
        refine path_searchEntries_again h hfile hnode hnode' hordered hordered' ?_
        intro k m n hm hn
        exact ih k m hm ((get?_entry hnode k).trans hm) ((get?_entry hnode' k).trans hn)
          (hordered.child hm) (hordered'.child hn)
    · -- a file was written to: the search only asks what it is called
      obtain rfl := Option.some.inj (hlook'.symm.trans hafter)
      rw [Node.isDir_bare] at hleaf hleaf'
      rw [Node.isFile_bare, Node.isFile_bare] at hisFile
      rw [path_searchNode_leaf hleaf, path_searchNode_leaf hleaf', hisFile]

/-- A search of a directory finds after progress what it found before. -/
theorem path_find_again (h : Progress above written d d') (hroot : d.root.Unlinked)
    (hordered : d.root.Ordered) (hfile : ∀ place ∈ written, place.getLast? ≠ some file)
    {root : String} {es : List (String × Node)} (hes : d.node root = .ok (.dir es)) :
    (d'.find root file).path = (d.find root file).path := by
  obtain ⟨place, hleads⟩ := (node_iff hroot).1 hes
  obtain ⟨hplace, hget⟩ := hleads.2.place
  obtain ⟨fs, hget'⟩ := h.dir hget
  obtain ⟨node', hleads'⟩ := h.leadsTo hleads
  obtain rfl := Option.some.inj (hleads'.2.place.2.symm.trans hget')
  have hfs : d'.node root = .ok (.dir fs) := (node_iff (h.unlinked hroot)).2 ⟨place, hleads'⟩
  have hordered' := (h.ordered hordered).below hget'
  rw [find, find, hes, hfs]
  refine path_searchEntries_again h hfile hget hget' (hordered.below hget) hordered' ?_
  intro k m n hm hn
  exact path_searchNode_again h hfile ((get?_entry hget k).trans hm) ((get?_entry hget' k).trans hn)
    ((hordered.below hget).child hm) (hordered'.child hn)

end

/-! ## What is found -/

theorem dir_of_find {d : Disk} {root file found : String}
    (h : (d.find root file).path = some found) : ∃ entries, d.node root = .ok (.dir entries) := by
  unfold find at h
  split at h
  · next entries hdir => exact ⟨entries, hdir⟩
  · simp at h
  · simp at h

/-- What a search finds is found below an entry of the directory. -/
theorem exists_entry_of_find {d : Disk} (hordered : d.root.Ordered) (hroot : d.root.Unlinked)
    {root file found : String} (h : (d.find root file).path = some found) :
    ∃ place entries k child, d.LeadsTo root place (.dir entries) ∧ child.Ordered ∧
      d.root.get? (place ++ [k]) = some child ∧
      (searchNode file k (Path.join root k) child).path = some found := by
  obtain ⟨entries, hdir⟩ := dir_of_find h
  obtain ⟨place, hleads⟩ := (node_iff hroot).1 hdir
  have hordered := hordered.below hleads.2.place.2
  rw [find, hdir] at h
  simp only [path_searchEntries hordered.keys] at h
  split at h
  · simp at h
  · obtain ⟨⟨k, child⟩, hentry, hfound⟩ := List.exists_of_findSome?_eq_some h
    have hchild := lookup_of_mem hordered.keys hentry
    exact ⟨place, entries, k, child, hleads, hordered.child hchild,
      (get?_entry hleads.2.place.2 k).trans hchild, hfound⟩

theorem exists_join_of_searchNode {file name base found : String} {node : Node}
    (hordered : node.Ordered)
    (h : (searchNode file name (Path.join base name) node).path = some found) :
    ∃ base, found = Path.join base file := by
  induction node using Node.byEntries generalizing name base with
  | step node ih =>
    cases node with
    | file _ _ =>
      rw [path_searchNode_leaf rfl] at h
      split at h
      · next hname =>
        rw [Bool.and_eq_true, decide_eq_true_iff] at hname
        exact ⟨base, by rw [← Option.some.inj h, hname.2]⟩
      · simp at h
    | dir entries =>
      rw [searchNode, path_searchEntries hordered.keys] at h
      split at h
      · simp at h
      · obtain ⟨⟨k, child⟩, hentry, hfound⟩ := List.exists_of_findSome?_eq_some h
        have hchild := lookup_of_mem hordered.keys hentry
        exact ih k child hchild (hordered.child hchild) hfound
    | _ => simp [searchNode] at h

/-- The path that a search finds ends in the name of the file. -/
theorem exists_join_of_find {d : Disk} (hordered : d.root.Ordered) (hroot : d.root.Unlinked)
    {root file found : String} (h : (d.find root file).path = some found) :
    ∃ base, found = Path.join base file := by
  obtain ⟨_, _, _, _, -, hchild, -, hfound⟩ := exists_entry_of_find hordered hroot h
  exact exists_join_of_searchNode hchild hfound

theorem leads_of_searchNode {d : Disk} (hnamed : d.root.Named) {file name base found : String}
    {place : List String} {parent node : Node} (hordered : node.Ordered)
    (hbase : Leads d.root (start d.here base) (Path.names base) (.node place parent))
    (hnode : d.root.get? (place ++ [name]) = some node)
    (h : (searchNode file name (Path.join base name) node).path = some found) :
    ∃ place node, Leads d.root (start d.here found) (Path.steps found) (.node place node) ∧
      node.isFile = true := by
  induction node using Node.byEntries generalizing name base place parent with
  | step node ih =>
    have hleads := hnamed.leads hbase hnode
    cases node with
    | file bytes attributes =>
      rw [path_searchNode_leaf rfl] at h
      split at h
      · obtain rfl := Option.some.inj h
        have hisName := (hnamed place name _ hnode).1
        rw [Path.names_join hisName, ← Path.steps_join hisName] at hleads
        exact ⟨_, _, hleads, rfl⟩
      · simp at h
    | dir entries =>
      rw [searchNode, path_searchEntries hordered.keys] at h
      split at h
      · simp at h
      · obtain ⟨⟨k, child⟩, hentry, hfound⟩ := List.exists_of_findSome?_eq_some h
        have hchild := lookup_of_mem hordered.keys hentry
        exact ih k child hchild (hordered.child hchild) hleads
          ((get?_entry hnode k).trans hchild) hfound
    | _ => simp [searchNode] at h

/-- The path that a search finds leads to a file, where entries have names that they can have. -/
theorem leads_of_find {d : Disk} (hordered : d.root.Ordered) (hroot : d.root.Unlinked)
    (hnamed : d.root.Named) {root file found : String}
    (h : (d.find root file).path = some found) :
    ∃ place node, Leads d.root (start d.here found) (Path.steps found) (.node place node) ∧
      node.isFile = true := by
  obtain ⟨_, _, _, _, hleads, hchild, hnode, hfound⟩ := exists_entry_of_find hordered hroot h
  exact leads_of_searchNode hnamed hchild hleads.names hnode hfound

end ContractBindings.Disk
