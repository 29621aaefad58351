import ContractBindings.Proofs.Disk.Relisted
import ContractBindings.Proofs.Store.Search
import ContractBindings.Proofs.Text.ByteOrder
import Mathlib.Data.List.Basic

/-!
# The least of the files of a name

A search goes through files and directories in one order, and stops at the first file of the name.
What it finds is the least of all files of the name, by the names on the way to them, whatever the
order in which directories list their entries.

1. `least_searchEntries`: what a search of a directory finds is the least of what can be reached.
2. `reaches_relisted`: what can be reached does not depend on the order of entries.
3. `find_least`: a search finds the least of the files, if there are any, and nothing else.
-/

namespace ContractBindings.Disk

/-! ## What can be reached -/

/-- No directory, at any depth, has two entries of one name. -/
def Node.Distinct (root : Node) : Prop :=
  ∀ place entries, root.get? place = some (.dir entries) → (entries.map Prod.fst).Nodup

/-- Names lead down from a directory at a path to a file of a name. All that stands above the file
is a directory, and no link to one, and can be read. -/
structure Reaches (file : String) (top : Node) (path : String) (names : List String) : Prop where
  named : names.getLast? = some file
  isFile : ∃ node, top.get? names = some node ∧ node.isFile = true
  readable : ∀ above, above <+: names → above ≠ names →
    (∃ entries, top.get? above = some (.dir entries)) ∧
      refused (above.foldl Path.join path) = none

/-- The first names come before the others: the first name that differs has lesser bytes, or the
first names end before the others. -/
def Before (names names' : List String) : Prop :=
  names.map Text.bytes < names'.map Text.bytes

/-- What is found below a path is the path of the least of some names, or there are no such
names. -/
def Least (found : Option String) (path : String) (reached : List String → Prop) : Prop :=
  match found with
  | none => ∀ names, ¬reached names
  | some p => ∃ names, reached names ∧ p = names.foldl Path.join path ∧
      ∀ names', reached names' → names' = names ∨ Before names names'

variable {file path name : String} {names names' : List String} {node top : Node}
  {entries : List (String × Node)}

theorem Before.asymm (h : Before names names') : ¬Before names' names :=
  List.lt_asymm h

theorem before_of_lt {name' : String} (h : name < name') :
    Before (name :: names) (name' :: names') :=
  List.cons_lt_cons_iff.2 (.inl (Text.bytes_lt h))

theorem Before.cons (h : Before names names') (name : String) :
    Before (name :: names) (name :: names') :=
  List.cons_lt_cons_iff.2 (.inr ⟨rfl, h⟩)

theorem Node.Distinct.keys (h : (Node.dir entries).Distinct) : (entries.map Prod.fst).Nodup :=
  h [] entries (Node.get?_nil _)

theorem Node.Distinct.below {root : Node} {place : List String} (h : root.Distinct)
    (hnode : root.get? place = some node) : node.Distinct := by
  intro q entries hq
  refine h (place ++ q) entries ?_
  rw [Node.get?_append, hnode]
  exact hq

theorem Node.Distinct.child (h : (Node.dir entries).Distinct)
    (hchild : entries.lookup name = some node) : node.Distinct := by
  have hget : (Node.dir entries).get? [name] = some node := by
    simp [Node.get?_cons, Node.entries, hchild]
  exact h.below hget

theorem Node.distinct_leaf (h : node.isDir = false) : node.Distinct := by
  intro place entries hget
  cases place with
  | nil =>
    rw [Node.get?_nil, Option.some.injEq] at hget
    simp [hget, Node.isDir] at h
  | cons name place =>
    rw [Node.get?_cons] at hget
    cases node <;> simp_all [Node.isDir, Node.entries]

theorem Node.distinct_dir (hkeys : (entries.map Prod.fst).Nodup)
    (hbelow : ∀ e ∈ entries, e.2.Distinct) : (Node.dir entries).Distinct := by
  intro place below hget
  cases place with
  | nil =>
    rw [Node.get?_nil, Option.some.injEq, Node.dir.injEq] at hget
    exact hget ▸ hkeys
  | cons name place =>
    obtain ⟨child, hmem, hget⟩ := Node.exists_entry_of_get? hget
    exact hbelow (name, child) hmem place below hget

/-- Something is reached only below a directory that can be read. -/
theorem Reaches.dir (h : Reaches file top path names) :
    names ≠ [] ∧ (∃ entries, top = .dir entries) ∧ refused path = none := by
  have hne : names ≠ [] := by
    rintro rfl
    simpa using h.named
  obtain ⟨⟨entries, hdir⟩, hread⟩ := h.readable [] List.nil_prefix hne.symm
  rw [Node.get?_nil, Option.some.injEq] at hdir
  exact ⟨hne, ⟨entries, hdir⟩, hread⟩

/-- A single name reaches an entry that is a file. -/
theorem reaches_singleton :
    Reaches file (.dir entries) path [name] ↔
      refused path = none ∧ name = file ∧
        ∃ child, entries.lookup name = some child ∧ child.isFile = true := by
  have hget : (Node.dir entries).get? [name] = entries.lookup name := by
    simp [Node.get?_cons, Node.entries]
  constructor
  · intro h
    have hnamed : name = file := by simpa using h.named
    exact ⟨h.dir.2.2, hnamed, hget ▸ h.isFile⟩
  · rintro ⟨hread, rfl, hchild⟩
    refine ⟨rfl, hget ▸ hchild, ?_⟩
    intro above hpre hne
    obtain rfl : above = [] := by
      rcases List.prefix_cons_iff.1 hpre with rfl | ⟨t, rfl, ht⟩
      · rfl
      · exact absurd (by rw [List.prefix_nil.1 ht]) hne
    exact ⟨⟨entries, Node.get?_nil _⟩, hread⟩

/-- Several names reach what all but the first of them reach below an entry. -/
theorem reaches_cons (hne : names ≠ []) :
    Reaches file (.dir entries) path (name :: names) ↔
      refused path = none ∧
        ∃ child, entries.lookup name = some child ∧
          Reaches file child (Path.join path name) names := by
  have hget (child : Node) (hchild : entries.lookup name = some child) (below : List String) :
      (Node.dir entries).get? (name :: below) = child.get? below := by
    simp [Node.get?_cons, Node.entries, hchild]
  have hlast : (name :: names).getLast? = names.getLast? := by
    rw [List.getLast?_cons, List.getLast?_eq_some_getLast hne, Option.getD_some]
  constructor
  · intro h
    obtain ⟨node, hnode, hisFile⟩ := h.isFile
    rw [Node.get?_cons] at hnode
    obtain ⟨child, hchild, hnode⟩ := Option.bind_eq_some_iff.1 hnode
    refine ⟨h.dir.2.2, child, hchild, hlast ▸ h.named, ⟨node, hnode, hisFile⟩, ?_⟩
    intro above hpre habove
    have hdir := h.readable (name :: above) (List.cons_prefix_cons.2 ⟨rfl, hpre⟩)
      (fun heq => habove (List.cons.inj heq).2)
    rwa [hget child hchild] at hdir
  · rintro ⟨hread, child, hchild, h⟩
    refine ⟨hlast.trans h.named, hget child hchild names ▸ h.isFile, ?_⟩
    intro above hpre hne'
    rcases List.prefix_cons_iff.1 hpre with rfl | ⟨above, rfl, hpre⟩
    · exact ⟨⟨entries, Node.get?_nil _⟩, hread⟩
    · rw [hget child hchild]
      exact h.readable above (List.cons_prefix_cons.1 hpre).2 fun heq => hne' (by rw [heq])

/-! ## The least of what can be reached -/

/-- Of several searches, one for each of some first names in order, the first that finds something
finds the least. -/
theorem least_findSome? {reached : List String → Prop} {search : String × Node → Option String}
    (hkeys : (entries.map Prod.fst).Pairwise (· < ·))
    (heach : ∀ e ∈ entries,
      Least (search e) (Path.join path e.1) fun names => reached (e.1 :: names))
    (hfirst : ∀ names, reached names → ∃ e ∈ entries, ∃ rest, names = e.1 :: rest) :
    Least (entries.findSome? search) path reached := by
  cases hfound : entries.findSome? search with
  | none =>
    rw [List.findSome?_eq_none_iff] at hfound
    intro names hreached
    obtain ⟨e, he, rest, rfl⟩ := hfirst names hreached
    have hnone := heach e he
    rw [hfound e he] at hnone
    exact hnone rest hreached
  | some p =>
    obtain ⟨before, e, after, rfl, hp, hbefore⟩ := List.findSome?_eq_some_iff.1 hfound
    have hleast := heach e (by simp)
    rw [hp] at hleast
    obtain ⟨rest, hreached, hpath, hleast⟩ := hleast
    refine ⟨e.1 :: rest, hreached, hpath, ?_⟩
    intro names' hreached'
    obtain ⟨e', he', rest', rfl⟩ := hfirst names' hreached'
    rcases List.mem_append.1 he' with he' | he'
    · -- a search that comes before finds nothing
      have hnone := heach e' (List.mem_append_left _ he')
      rw [hbefore e' he'] at hnone
      exact absurd hreached' (hnone rest')
    · rcases List.mem_cons.1 he' with rfl | he'
      · refine (hleast rest' hreached').imp ?_ ?_
        · exact fun heq => by rw [heq]
        · exact fun hlt => hlt.cons _
      · rw [List.map_append, List.map_cons, List.pairwise_append, List.pairwise_cons] at hkeys
        exact .inr (before_of_lt (hkeys.2.1.1 e'.1 (List.mem_map_of_mem he')))

theorem pairwise_sorted (h : (entries.map Prod.fst).Nodup) :
    ((Node.sorted entries).map Prod.fst).Pairwise (· < ·) := by
  have hle : (Node.sorted entries).Pairwise fun a b => decide (a.1 ≤ b.1) = true := by
    refine List.pairwise_mergeSort ?_ ?_ entries
    · intro a b c hab hbc
      exact decide_eq_true (le_trans (of_decide_eq_true hab) (of_decide_eq_true hbc))
    · intro a b
      rw [Bool.or_eq_true, decide_eq_true_iff, decide_eq_true_iff]
      exact le_total a.1 b.1
  have hnodup : ((Node.sorted entries).map Prod.fst).Nodup :=
    ((List.mergeSort_perm entries _).map Prod.fst).nodup_iff.2 h
  rw [List.Nodup, List.pairwise_map] at hnodup
  rw [List.pairwise_map]
  exact (hle.and hnodup).imp fun h => lt_of_le_of_ne (of_decide_eq_true h.1) h.2

theorem lookup_of_mem_nodup (hkeys : (entries.map Prod.fst).Nodup) (h : (name, node) ∈ entries) :
    entries.lookup name = some node := by
  obtain ⟨before, after, rfl⟩ := List.append_of_mem h
  refine List.lookup_eq_some_iff.2 ⟨before, after, rfl, ?_⟩
  intro e he
  rw [List.map_append, List.nodup_append] at hkeys
  have hne : e.1 ≠ name := hkeys.2.2 e.1 (List.mem_map_of_mem he) name (by simp)
  simpa using hne.symm

/-- What a search of an entry finds is the least of what can be reached through the entry, if that
holds of the entry when it is a directory itself. -/
theorem least_searchNode (hread : refused path = none) (hchild : entries.lookup name = some node)
    (hbelow : ∀ below, node = .dir below →
      Least (searchEntries file (Path.join path name) below).path (Path.join path name)
        (Reaches file node (Path.join path name))) :
    Least (searchNode file name (Path.join path name) node).path (Path.join path name)
      fun names => Reaches file (.dir entries) path (name :: names) := by
  -- what is reached is the entry itself or something below it
  have hcases (names : List String) (h : Reaches file (.dir entries) path (name :: names)) :
      (names = [] ∧ name = file ∧ node.isFile = true) ∨
        (names ≠ [] ∧ Reaches file node (Path.join path name) names) := by
    by_cases hnames : names = []
    · subst hnames
      obtain ⟨-, hfile, child, hlook, hisFile⟩ := reaches_singleton.1 h
      obtain rfl := Option.some.inj (hchild.symm.trans hlook)
      exact .inl ⟨rfl, hfile, hisFile⟩
    · obtain ⟨-, child, hlook, hreaches⟩ := (reaches_cons hnames).1 h
      obtain rfl := Option.some.inj (hchild.symm.trans hlook)
      exact .inr ⟨hnames, hreaches⟩
  cases hdir : node.isDir with
  | false =>
    have hleaf (names : List String) (h : Reaches file (.dir entries) path (name :: names)) :
        names = [] ∧ name = file ∧ node.isFile = true := by
      refine (hcases names h).resolve_right ?_
      rintro ⟨-, hreaches⟩
      obtain ⟨-, ⟨below, rfl⟩, -⟩ := hreaches.dir
      simp [Node.isDir] at hdir
    rw [path_searchNode_leaf hdir]
    split
    · next hfile =>
      rw [Bool.and_eq_true, decide_eq_true_iff] at hfile
      refine ⟨[], reaches_singleton.2 ⟨hread, hfile.2, node, hchild, hfile.1⟩, rfl, ?_⟩
      exact fun names' h => .inl (hleaf names' h).1
    · next hfile =>
      intro names h
      obtain ⟨-, hname, hisFile⟩ := hleaf names h
      exact hfile (by simp [hname, hisFile])
  | true =>
    have hisFile : node.isFile = false := by cases node <;> simp_all [Node.isDir, Node.isFile]
    have hdown (names : List String) (h : Reaches file (.dir entries) path (name :: names)) :
        Reaches file node (Path.join path name) names := by
      refine ((hcases names h).resolve_left ?_).2
      rintro ⟨-, -, htrue⟩
      simp [hisFile] at htrue
    cases node with
    | dir below =>
      have hleast := hbelow below rfl
      rw [searchNode]
      cases hfound : (searchEntries file (Path.join path name) below).path with
      | none =>
        rw [hfound] at hleast
        exact fun names h => hleast names (hdown names h)
      | some p =>
        rw [hfound] at hleast
        obtain ⟨names, hreaches, hpath, hleast⟩ := hleast
        have hhere := (reaches_cons hreaches.dir.1).2 ⟨hread, _, hchild, hreaches⟩
        refine ⟨names, hhere, hpath, ?_⟩
        exact fun names' h => hleast names' (hdown names' h)
    | «sealed» _ _ =>
      rw [searchNode]
      intro names h
      obtain ⟨-, ⟨below, hbelow⟩, -⟩ := (hdown names h).dir
      simp at hbelow
    | _ => simp [Node.isDir] at hdir

/-- What a search of a directory finds is the least of what can be reached below it. -/
theorem least_searchEntries (h : (Node.dir entries).Distinct) (path : String) :
    Least (searchEntries file path entries).path path (Reaches file (.dir entries) path) := by
  -- the induction is on the directory, and goes down to the entries that are directories
  generalize hnode : Node.dir entries = node at h ⊢
  induction node using Node.byEntries generalizing path entries with
  | step node ih =>
    subst hnode
    rw [path_searchEntries_sorted]
    cases hread : refused path with
    | some fault =>
      intro names hreaches
      have hok := hreaches.dir.2.2
      simp [hread] at hok
    | none =>
      refine least_findSome? (pairwise_sorted h.keys) ?_ ?_
      · rintro ⟨name, child⟩ he
        have hchild := lookup_of_mem_nodup h.keys (List.mem_mergeSort.1 he)
        refine least_searchNode hread hchild ?_
        rintro below rfl
        exact ih name (.dir below) hchild (Path.join path name) rfl (h.child hchild)
      · intro names hreaches
        obtain ⟨name, rest, rfl⟩ := List.exists_cons_of_ne_nil hreaches.dir.1
        obtain ⟨node, hnode, -⟩ := hreaches.isFile
        obtain ⟨child, hmem, -⟩ := Node.exists_entry_of_get? hnode
        exact ⟨(name, child), List.mem_mergeSort.2 hmem, rest, rfl⟩

/-! ## Searches -/

theorem Least.unique {found : Option String} {reached : List String → Prop}
    (h : Least found path reached) (hreached : reached names)
    (hleast : ∀ names', reached names' → names' = names ∨ Before names names') :
    found = some (names.foldl Path.join path) := by
  cases found with
  | none => exact absurd hreached (h names)
  | some p =>
    obtain ⟨names', hreached', hpath, hleast'⟩ := h
    rw [hpath]
    rcases hleast names' hreached' with heq | hbefore
    · rw [heq]
    · rcases hleast' names hreached with heq | hbefore'
      · rw [heq]
      · exact absurd hbefore' hbefore.asymm

theorem least_congr {found found' : Option String} {reached : List String → Prop}
    (h : Least found path reached) (h' : Least found' path reached) : found' = found := by
  cases found with
  | some p =>
    obtain ⟨names, hreached, rfl, hleast⟩ := h
    exact h'.unique hreached hleast
  | none =>
    cases found' with
    | none => rfl
    | some p =>
      obtain ⟨names, hreached, -⟩ := h'
      exact absurd hreached (h names)

theorem Reaches.relisted {top' : Node} (h : Reaches file top path names)
    (hsame : top.Relisted top') : Reaches file top' path names := by
  refine ⟨h.named, ?_, ?_⟩
  · obtain ⟨node, hnode, hisFile⟩ := h.isFile
    obtain ⟨node', hnode', hbare, -⟩ := hsame.some hnode
    refine ⟨node', hnode', ?_⟩
    rw [← Node.isFile_bare, hbare, Node.isFile_bare, hisFile]
  · intro above hpre hne
    obtain ⟨⟨entries, hdir⟩, hread⟩ := h.readable above hpre hne
    obtain ⟨entries', hdir', -⟩ := hsame.dir hdir
    exact ⟨⟨entries', hdir'⟩, hread⟩

/-- What can be reached does not depend on the order in which directories list their entries. -/
theorem reaches_relisted {top' : Node} (hsame : top.Relisted top') :
    Reaches file top' path = Reaches file top path := by
  funext names
  refine propext ⟨fun h => h.relisted ?_, fun h => h.relisted hsame⟩
  exact fun place => (hsame place).symm

/-- Names lead down from the directory at a root to a file of a name, through directories that can
be read. Where the root is a link, the directory is what it leads to. -/
def HasBelow (d : Disk) (root file : String) (names : List String) : Prop :=
  ∃ top, d.node root = .ok top ∧ Reaches file top root names

variable {d : Disk} {root : String}

theorem hasBelow_of_node (hnode : d.node root = .ok top) :
    d.HasBelow root file names ↔ Reaches file top root names := by
  constructor
  · rintro ⟨top', hnode', hreaches⟩
    obtain rfl := Except.ok.inj (hnode'.symm.trans hnode)
    exact hreaches
  · exact fun hreaches => ⟨top, hnode, hreaches⟩

theorem HasBelow.dir (h : d.HasBelow root file names) :
    ∃ entries, d.node root = .ok (.dir entries) := by
  obtain ⟨top, hnode, hreaches⟩ := h
  obtain ⟨-, ⟨entries, rfl⟩, -⟩ := hreaches.dir
  exact ⟨entries, hnode⟩

/-- What is found below a root is the least of what it has below it. -/
theorem least_find (hd : d.root.Distinct) (root file : String) :
    Least (d.find root file).path root (d.HasBelow root file) := by
  have hnothing (h : ∀ entries, d.node root ≠ .ok (.dir entries)) :
      ∀ names, ¬d.HasBelow root file names := by
    intro names hbelow
    obtain ⟨entries, hdir⟩ := hbelow.dir
    exact h entries hdir
  unfold find
  split
  · next entries hdir =>
    obtain ⟨place, hget⟩ := exists_place_of_node hdir
    have hbelow : d.HasBelow root file = Reaches file (.dir entries) root :=
      funext fun _ => propext (hasBelow_of_node hdir)
    rw [hbelow]
    exact least_searchEntries (hd.below hget) root
  · next forDirectory forFile hsealed =>
    refine hnothing fun entries hdir => ?_
    simp [hsealed] at hdir
  · next hnot _ => exact hnothing hnot

/-- A search finds something just if the root is a directory, or a link to one, and has a file of
the name below it. What it finds is the path of the least of those files, by the names on the way.
The order in which directories list their entries does not matter. -/
theorem find_least (d : Disk) (hd : d.root.Distinct) (root file : String) :
    ((d.find root file).path.isSome ↔
        d.isDir root = true ∧ ∃ names, d.HasBelow root file names) ∧
      (∀ p, (d.find root file).path = some p ↔
        ∃ names, d.HasBelow root file names ∧ p = names.foldl Path.join root ∧
          ∀ names', d.HasBelow root file names' → names' = names ∨ Before names names') ∧
      ∀ d' : Disk, d.Relisted d' → d'.root.Distinct →
        (d'.find root file).path = (d.find root file).path := by
  have hleast := least_find hd root file
  refine ⟨?_, ?_, ?_⟩
  · constructor
    · intro hfound
      obtain ⟨p, hp⟩ := Option.isSome_iff_exists.1 hfound
      rw [hp] at hleast
      obtain ⟨names, hbelow, -⟩ := hleast
      obtain ⟨entries, hdir⟩ := hbelow.dir
      refine ⟨?_, names, hbelow⟩
      rw [isDir, hdir]
      rfl
    · rintro ⟨-, names, hbelow⟩
      cases hfound : (d.find root file).path with
      | some p => rfl
      | none =>
        rw [hfound] at hleast
        exact absurd hbelow (hleast names)
  · intro p
    constructor
    · intro hfound
      rw [hfound] at hleast
      exact hleast
    · rintro ⟨names, hbelow, rfl, hfirst⟩
      exact hleast.unique hbelow hfirst
  · intro d' hsame hd'
    refine least_congr hleast ?_
    have hbelow : d.HasBelow root file = d'.HasBelow root file := by
      funext names
      rcases node_relisted hsame root with ⟨fault, hnode, hnode'⟩ |
        ⟨node, node', hnode, hnode', hrelisted⟩
      · simp [HasBelow, hnode, hnode']
      · rw [hasBelow_of_node hnode, hasBelow_of_node hnode', reaches_relisted hrelisted]
    rw [hbelow]
    exact least_find hd' root file

/-- A directory with entries that are not in order. Other directories and a link bear the name of
a file that is in it twice. -/
def unordered : Node :=
  .dir [("lib", .dir [("T.json", .file ByteArray.empty)]),
    ("b", .dir [("deep", .dir [("T.json", .file ByteArray.empty)]), ("T.json", .dir [])]),
    ("a", .link ".."), ("T.json", .link "lib/T.json")]

theorem distinct_unordered : unordered.Distinct := by
  have hfile : (Node.file ByteArray.empty).Distinct := Node.distinct_leaf rfl
  have hlink (target : String) : (Node.link target).Distinct := Node.distinct_leaf rfl
  have hempty : (Node.dir []).Distinct := Node.distinct_dir List.nodup_nil (by simp)
  have hone : (Node.dir [("T.json", .file ByteArray.empty)]).Distinct :=
    Node.distinct_dir (by simp) (by simp [hfile])
  have htwo : (Node.dir [("deep", .dir [("T.json", .file ByteArray.empty)]),
      ("T.json", .dir [])]).Distinct :=
    Node.distinct_dir (by simp) (by simp [hone, hempty])
  exact Node.distinct_dir (by simp) (by simp [hone, htwo, hlink])

theorem find_unordered :
    (({ root := unordered } : Disk).find "." "T.json").path = some "./b/deep/T.json" := by
  have hnode : ({ root := unordered } : Disk).node "." = .ok unordered := by
    have hsteps : Path.steps "." = ["."] := by decide
    have hrefused : refused "." = none := by decide
    have hstart : start [] "." = [] := by decide
    simp +decide [node, walk, walkFrom, Node.get?, unordered, hsteps, hrefused, hstart]
  have hread : refused "." = none ∧ refused (Path.join "." "lib") = none ∧
      refused (Path.join "." "b") = none ∧
      refused (Path.join (Path.join "." "b") "T.json") = none ∧
      refused (Path.join (Path.join "." "b") "deep") = none := by decide
  have hpath : Path.join (Path.join (Path.join "." "b") "deep") "T.json" = "./b/deep/T.json" := by
    decide
  rw [find, hnode]
  simp [unordered, searchEntries, searchEach, searchNode, Node.sorted,
    List.mergeSort, List.MergeSort.Internal.splitInTwo, Search.first, hread, hpath]

/-- There a search finds the file below the directory that comes first in byte order, and so it
does on any disk that lists the same entries in another order. -/
theorem find_least_unordered :
    let d : Disk := { root := unordered }
    d.root.Distinct ∧ (∃ names, d.HasBelow "." "T.json" names) ∧
      ∀ d' : Disk, d.Relisted d' → d'.root.Distinct →
        (d'.find "." "T.json").path = some "./b/deep/T.json" := by
  intro d
  obtain ⟨hsome, -, hlisted⟩ := find_least d distinct_unordered "." "T.json"
  have hfound : (d.find "." "T.json").path = some "./b/deep/T.json" := find_unordered
  have hbelow := (hsome.1 (by rw [hfound]; rfl)).2
  exact ⟨distinct_unordered, hbelow, fun d' hsame hd' => (hlisted d' hsame hd').trans hfound⟩

end ContractBindings.Disk
