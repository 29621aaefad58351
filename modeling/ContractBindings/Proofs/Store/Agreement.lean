import ContractBindings.Proofs.Disk.Following
import ContractBindings.Proofs.Disk.Parent
import ContractBindings.Proofs.Store.Least
import ContractBindings.Proofs.Store.Locate

/-!
# Conventional places and the search

A store looks at the conventional places of an artifact before it searches the whole tree. The two
ways to a file have different rules: looking at a place walks along a path, which the operating
system may refuse and which follows links, and the search goes through the entries of directories,
and follows no links.

1. `isFile_below_iff`: a path of names below a root is that of a file just if the file lies there,
   and the operating system takes the path.
2. `located_of_locate`: how a path that is found looks, on disks of any kind.
3. `locate_eq_none_iff_lies`, `locate_only`: nothing is found just if there is no file, and a single
   file is found by both.
4. `locate_agrees`: where nothing is a link and all directories can be read, the store and the
   search find something in the same cases, and the first conventional place that has a file wins.
5. `locate_too_long`: a conventional place does not win if its path is too long to be taken.
-/

namespace ContractBindings.Disk

/-! ## Files below a root -/

/-- Names lead down from the directory at a root to a file of a name. What stands on the way is no
link, but a path to the root may lead through links. -/
def LiesBelow (d : Disk) (root file : String) (names : List String) : Prop :=
  ∃ top, d.node root = .ok top ∧ names.getLast? = some file ∧
    ∃ node, top.get? names = some node ∧ node.isFile = true

/-- Nothing below the root is a symbolic link. -/
def UnlinkedBelow (d : Disk) (root : String) : Prop :=
  ∀ top, d.node root = .ok top → top.Unlinked

/-- Every directory at or below the node, which stands at the path, can be read: the operating
system takes its path. -/
def Node.ReadableAt (top : Node) (path : String) : Prop :=
  ∀ names entries, top.get? names = some (.dir entries) →
    refused (names.foldl Path.join path) = none

/-- Every directory below the root can be read. -/
def ReadableBelow (d : Disk) (root : String) : Prop :=
  ∀ top, d.node root = .ok top → top.ReadableAt root

theorem Node.readable_leaf {node : Node} (h : node.isDir = false) (path : String) :
    node.ReadableAt path := by
  intro names entries hdir
  cases names with
  | nil =>
    rw [Node.get?_nil, Option.some.injEq] at hdir
    simp [hdir, Node.isDir] at h
  | cons name rest =>
    rw [Node.get?_cons] at hdir
    cases node <;> simp_all [Node.isDir, Node.entries]

theorem Node.readable_dir {entries : List (String × Node)} {path : String}
    (hread : refused path = none)
    (hbelow : ∀ e ∈ entries, e.2.ReadableAt (Path.join path e.1)) :
    (Node.dir entries).ReadableAt path := by
  intro names below hdir
  cases names with
  | nil => exact hread
  | cons name rest =>
    obtain ⟨child, hmem, hget⟩ := Node.exists_entry_of_get? hdir
    exact hbelow (name, child) hmem rest below hget

variable {d : Disk} {root file path : String} {names : List String}

theorem HasBelow.lies (h : d.HasBelow root file names) : d.LiesBelow root file names := by
  obtain ⟨top, hnode, hreaches⟩ := h
  exact ⟨top, hnode, hreaches.named, hreaches.isFile⟩

/-- What stands above a node is a directory. -/
theorem dir_of_prefix {top node : Node} {above : List String} (h : top.get? names = some node)
    (hpre : above <+: names) (hne : above ≠ names) :
    ∃ entries, top.get? above = some (.dir entries) := by
  obtain ⟨below, rfl⟩ := hpre
  obtain ⟨name, rest, rfl⟩ : ∃ name rest, below = name :: rest :=
    List.exists_cons_of_ne_nil fun hnil => hne (by rw [hnil, List.append_nil])
  rw [List.append_cons, Node.get?_append] at h
  obtain ⟨child, hchild, -⟩ := Option.bind_eq_some_iff.1 h
  obtain ⟨entries, hdir, -⟩ := lookup_of_get? hchild
  exact ⟨entries, hdir⟩

/-- Where all directories can be read, a search goes down to every file. -/
theorem hasBelow_iff (hread : d.ReadableBelow root) :
    d.HasBelow root file names ↔ d.LiesBelow root file names := by
  refine ⟨HasBelow.lies, ?_⟩
  rintro ⟨top, hnode, hnamed, node, hget, hisFile⟩
  refine ⟨top, hnode, hnamed, ⟨node, hget, hisFile⟩, fun above hpre hne => ?_⟩
  obtain ⟨entries, hdir⟩ := dir_of_prefix hget hpre hne
  exact ⟨⟨entries, hdir⟩, hread top hnode above entries hdir⟩

theorem LiesBelow.getLast? (h : d.LiesBelow root file names) : names.getLast? = some file := by
  obtain ⟨-, -, hlast, -⟩ := h
  exact hlast

theorem LiesBelow.ne_nil (h : d.LiesBelow root file names) : names ≠ [] := by
  rintro rfl
  simpa using h.getLast?

theorem LiesBelow.isName (hnamed : d.root.Named) (h : d.LiesBelow root file names) :
    ∀ name ∈ names, Path.IsName name := by
  obtain ⟨top, hnode, -, node, hget, -⟩ := h
  obtain ⟨place, htop⟩ := exists_place_of_node hnode
  have hplace : d.root.get? (place ++ names) = some node := by
    rw [Node.get?_append, htop]
    exact hget
  exact fun name hname => (hnamed.below hplace name hname).1

theorem isFile_of_refused {fault : Fault} (h : refused path = some fault) :
    d.isFile path = false := by
  rw [isFile, Disk.node, walk, h]

/-- The path of a file below a root leads to the file, if the operating system takes the path. -/
theorem isFile_of_liesBelow (hnamed : d.root.Named) (h : d.LiesBelow root file names)
    (hread : refused (names.foldl Path.join root) = none) :
    d.isFile (names.foldl Path.join root) = true := by
  have hne := h.ne_nil
  have hisName := h.isName hnamed
  obtain ⟨top, hnode, -, node, hget, hisFile⟩ := h
  obtain ⟨-, left, place, hfollows, htop⟩ := follows_of_node hnode
  have hplace : d.root.get? (place ++ names) = some node := by
    rw [Node.get?_append, htop]
    exact hget
  have hdown : walkFrom d.root .follow left place names = .ok (.node (place ++ names) node) := by
    refine walkFrom_down (fun name hname => (hnamed.below hplace name hname).2) hplace ?_
    rintro target rfl
    simp [Node.isFile] at hisFile
  rw [isFile, Disk.node, walk, hread]
  simp only [Path.steps_foldl_join hne hisName, start_foldl_join hisName, hfollows.walkFrom, hdown,
    hisFile]

/-- Where nothing below the root is a link, a path of names below it leads to a file just if the
file lies there, and the operating system takes the path. -/
theorem isFile_below_iff (hnamed : d.root.Named) (hroot : root ≠ "")
    (hunlinked : d.UnlinkedBelow root) (hlast : names.getLast? = some file)
    (hnames : ∀ name ∈ names, Path.IsName name ∧ Descends name) :
    d.isFile (names.foldl Path.join root) = true ↔
      d.LiesBelow root file names ∧ refused (names.foldl Path.join root) = none := by
  refine ⟨fun h => ?_, fun ⟨hlies, hread⟩ => isFile_of_liesBelow hnamed hlies hread⟩
  have hisName : ∀ name ∈ names, Path.IsName name := fun name hname => (hnames name hname).1
  have hne : names ≠ [] := by
    rintro rfl
    simp at hlast
  cases hread : refused (names.foldl Path.join root) with
  | some fault => simp [isFile_of_refused hread] at h
  | none =>
    refine ⟨?_, rfl⟩
    unfold isFile Disk.node walk at h
    simp only [hread, Path.steps_foldl_join hne hisName, start_foldl_join hisName] at h
    split at h
    · next node hnode =>
      obtain ⟨place, hwalk⟩ : ∃ place, walkFrom d.root .follow maxLinks (start d.here root)
          (Path.names root ++ names) = .ok (.node place node) := by
        split at hnode
        · next place _ hwalk => exact ⟨place, Except.ok.inj hnode ▸ hwalk⟩
        · simp at hnode
        · simp at hnode
      -- the walk comes to a directory at the root, and goes down from there
      obtain ⟨left, mid, hfollows, hdown⟩ := follows_of_walkFrom (.inl hne) hwalk
      obtain ⟨name, rest, hcons⟩ := List.exists_cons_of_ne_nil hne
      obtain ⟨top, htop, hdir⟩ : d.root.DirAt mid := dirAt_of_walkFrom (hcons ▸ hdown)
      obtain ⟨more, hmore⟩ := Path.exists_append_of_foldl_join root hisName
      have hnode := node_of_follows (refused_append hroot (hmore ▸ hread)) hfollows htop hdir
      have hget := get?_of_walkFrom_down htop (hunlinked top hnode)
        (fun name hname => (hnames name hname).2) hdown
      exact ⟨top, hnode, hlast, node, hget, h⟩
    · simp at h

end ContractBindings.Disk

namespace ContractBindings.Store

variable {d : Disk} {s : Store} {contract : String}

/-! ## Conventional places -/

/-- The names of a conventional place end in the name of the file, and all of them go down. -/
theorem names_of_conventional (hcontract : '/' ∉ contract.toList) {names : List String}
    (h : names ∈ conventionalNames contract) :
    names.getLast? = some (fileName contract) ∧
      ∀ name ∈ names, Disk.Path.IsName name ∧ Disk.Descends name := by
  obtain ⟨below, hbelow, rfl⟩ := exists_nested_of_conventional hcontract h
  refine ⟨List.getLast?_concat, fun name hname => ?_⟩
  rcases List.mem_append.1 hname with hname | hname
  · exact hbelow name hname
  · obtain rfl := List.mem_singleton.1 hname
    exact ⟨isName_fileName hcontract, descends_fileName contract⟩

/-- A conventional place that the operating system takes as a path, and that has the file. -/
def Stands (s : Store) (contract : String) (d : Disk) (names : List String) : Prop :=
  d.LiesBelow s.root (fileName contract) names ∧ Disk.refused (s.pathBelow names) = none

theorem find_conventional (s : Store) (contract : String) (d : Disk) :
    (s.conventional contract).find? d.isFile =
      ((conventionalNames contract).find? fun names => d.isFile (s.pathBelow names)).map
        s.pathBelow := by
  rw [conventional_eq]
  exact List.find?_map ..

theorem path_locate (s : Store) (contract : String) (d : Disk) :
    (s.locate contract d).path =
      (((conventionalNames contract).find? fun names => d.isFile (s.pathBelow names)).map
        s.pathBelow).or (d.find s.root (fileName contract)).path := by
  rw [← find_conventional]
  unfold locate
  split
  · next path hfound => rw [hfound, Option.some_or]
  · next hfound => rw [hfound, Option.none_or]

/-! ## What is found -/

/-- What is found is at a conventional place that has a file, or else is what the search finds. -/
theorem locate_cases {path : String} (h : (s.locate contract d).path = some path) :
    (∃ names ∈ conventionalNames contract, d.isFile (s.pathBelow names) = true ∧
        path = s.pathBelow names) ∨
      (d.find s.root (fileName contract)).path = some path := by
  rw [path_locate, Option.or_eq_some_iff] at h
  rcases h with h | ⟨-, h⟩
  · obtain ⟨names, hfound, rfl⟩ := Option.map_eq_some_iff.1 h
    have hisFile := List.find?_some hfound
    exact .inl ⟨names, List.mem_of_find?_eq_some hfound, hisFile, rfl⟩
  · exact .inr h

/-- A path below the root starts with the root and ends in its last name. -/
theorem pathBelow_form (hroot : s.root ≠ "") {names : List String} {file : String}
    (hlast : names.getLast? = some file) (hnames : ∀ name ∈ names, Disk.Path.IsName name) :
    (∃ rest, s.pathBelow names = s.root ++ rest) ∧
      ∃ above, s.pathBelow names = above ++ "/" ++ file := by
  refine ⟨Disk.Path.exists_append_of_foldl_join s.root hnames, ?_⟩
  obtain ⟨front, rfl⟩ := List.getLast?_eq_some_iff.1 hlast
  obtain ⟨rest, hrest⟩ := Disk.Path.exists_append_of_foldl_join s.root
    fun name hname => hnames name (List.mem_append_left _ hname)
  have hbase : front.foldl Disk.Path.join s.root ≠ "" := by simp [hrest, hroot]
  obtain ⟨above, habove⟩ := Disk.Path.exists_slash_of_join hbase (hnames file (by simp))
  exact ⟨above, by rw [pathBelow, List.foldl_append, List.foldl_cons, List.foldl_nil, habove]⟩

/-- What the search finds lies below the root, at the path that is found. -/
theorem exists_names_of_find (hdistinct : d.root.Distinct) {file path : String}
    (h : (d.find s.root file).path = some path) :
    ∃ names, d.LiesBelow s.root file names ∧ path = s.pathBelow names := by
  have hleast := Disk.least_find hdistinct s.root file
  rw [h] at hleast
  obtain ⟨names, hbelow, hpath, -⟩ := hleast
  exact ⟨names, hbelow.lies, hpath⟩

/-- Where all directories can be read, the search finds nothing just if nothing lies there. -/
theorem find_eq_none_iff (hdistinct : d.root.Distinct) (hread : d.ReadableBelow s.root)
    {file : String} :
    (d.find s.root file).path = none ↔ ∀ names, ¬d.LiesBelow s.root file names := by
  have hleast := Disk.least_find hdistinct s.root file
  constructor
  · intro h names hlies
    rw [h] at hleast
    exact hleast names ((Disk.hasBelow_iff hread).2 hlies)
  · intro h
    cases hfound : (d.find s.root file).path with
    | none => rfl
    | some path =>
      obtain ⟨names, hlies, -⟩ := exists_names_of_find hdistinct hfound
      exact absurd hlies (h names)

theorem locate_eq_none_iff (s : Store) (contract : String) (d : Disk) :
    (s.locate contract d).path = none ↔
      (s.load contract d).1 = .error (.artifactNotFound s.root (fileName contract)) := by
  rw [load_fst]
  cases (s.locate contract d).path with
  | none => simp
  | some path =>
    have hfault : readAt path d ≠ .error (.artifactNotFound s.root (fileName contract)) := by
      unfold readAt
      split
      · simp
      · next text _ =>
        cases Artifact.read text <;> simp [Except.mapError]
    simp only [reduceCtorEq, false_iff]
    intro h
    cases hread : readAt path d with
    | error e =>
      rw [hread] at h hfault
      exact hfault (by simpa [Except.map] using h)
    | ok artifact => simp [hread, Except.map] at h

/-- The first conventional place that has a file wins over those after it and over the search. -/
theorem locate_first {before after : List (List String)} {names : List String}
    (hsplit : conventionalNames contract = before ++ names :: after)
    (hfile : d.isFile (s.pathBelow names) = true)
    (hbefore : ∀ names' ∈ before, d.isFile (s.pathBelow names') = false) :
    (s.locate contract d).path = some (s.pathBelow names) := by
  have hfound : (conventionalNames contract).find? (fun names => d.isFile (s.pathBelow names)) =
      some names := by
    rw [hsplit]
    refine List.find?_eq_some_iff_append.2 ⟨hfile, before, after, rfl, fun names' hnames' => ?_⟩
    simp [hbefore names' hnames']
  rw [path_locate, hfound]
  rfl

theorem locate_eq_find
    (h : ∀ names ∈ conventionalNames contract, d.isFile (s.pathBelow names) = false) :
    (s.locate contract d).path = (d.find s.root (fileName contract)).path := by
  have hnone : (conventionalNames contract).find? (fun names => d.isFile (s.pathBelow names)) =
      none := by
    rw [List.find?_eq_none]
    intro names hnames
    simp [h names hnames]
  rw [path_locate, hnone]
  rfl

/-- How a path that is found looks, and what it leads to. -/
structure Located (s : Store) (contract : String) (d : Disk) (path : String) : Prop where
  starts : ∃ rest, path = s.root ++ rest
  ends : ∃ above, path = above ++ "/" ++ fileName contract
  /-- The search alone can come to a path that the operating system does not take. -/
  isFile : d.isFile path = true ∨ Disk.refused path ≠ none ∧
    ∃ names, d.LiesBelow s.root (fileName contract) names ∧ path = s.pathBelow names

section Below

variable (hnamed : d.root.Named) (hroot : s.root ≠ "") (hcontract : '/' ∉ contract.toList)
include hnamed hroot hcontract

theorem isFile_conventional_iff (hunlinked : d.UnlinkedBelow s.root) {names : List String}
    (h : names ∈ conventionalNames contract) :
    d.isFile (s.pathBelow names) = true ↔ s.Stands contract d names := by
  obtain ⟨hlast, hnames⟩ := names_of_conventional hcontract h
  exact Disk.isFile_below_iff hnamed hroot hunlinked hlast hnames

/-- What is found at a conventional place is a file for the operating system. What the search finds
is one if its path is taken. -/
theorem located_of_locate (hdistinct : d.root.Distinct) {path : String}
    (h : (s.locate contract d).path = some path) : s.Located contract d path := by
  rcases locate_cases h with ⟨names, hnames, hisFile, rfl⟩ | hfound
  · obtain ⟨hlast, hdown⟩ := names_of_conventional hcontract hnames
    obtain ⟨hstarts, hends⟩ := pathBelow_form hroot hlast fun name hname => (hdown name hname).1
    exact ⟨hstarts, hends, .inl hisFile⟩
  · obtain ⟨names, hlies, rfl⟩ := exists_names_of_find hdistinct hfound
    obtain ⟨hstarts, hends⟩ := pathBelow_form hroot hlies.getLast? (hlies.isName hnamed)
    refine ⟨hstarts, hends, ?_⟩
    by_cases hread : Disk.refused (s.pathBelow names) = none
    · exact .inl (Disk.isFile_of_liesBelow hnamed hlies hread)
    · exact .inr ⟨hread, names, hlies, rfl⟩

/-- Nothing is found just if no file of the name lies below the root. -/
theorem locate_eq_none_iff_lies (hdistinct : d.root.Distinct) (hunlinked : d.UnlinkedBelow s.root)
    (hread : d.ReadableBelow s.root) :
    (s.locate contract d).path = none ↔
      ∀ names, ¬d.LiesBelow s.root (fileName contract) names := by
  constructor
  · intro h
    rw [path_locate, Option.or_eq_none_iff] at h
    exact (find_eq_none_iff hdistinct hread).1 h.2
  · intro h
    rw [locate_eq_find, find_eq_none_iff hdistinct hread]
    · exact h
    · intro names hnames
      rw [Bool.eq_false_iff]
      intro hisFile
      exact h names ((isFile_conventional_iff hnamed hroot hcontract hunlinked hnames).1 hisFile).1

/-- The only file of the name is found by both, at the same path. -/
theorem locate_only (hdistinct : d.root.Distinct) (hunlinked : d.UnlinkedBelow s.root)
    (hread : d.ReadableBelow s.root) {names : List String}
    (hlies : d.LiesBelow s.root (fileName contract) names)
    (honly : ∀ names', d.LiesBelow s.root (fileName contract) names' → names' = names) :
    (s.locate contract d).path = some (s.pathBelow names) ∧
      (d.find s.root (fileName contract)).path = some (s.pathBelow names) := by
  have hfind : (d.find s.root (fileName contract)).path = some (s.pathBelow names) :=
    (Disk.least_find hdistinct s.root (fileName contract)).unique
      ((Disk.hasBelow_iff hread).2 hlies) fun names' hbelow => .inl (honly names' hbelow.lies)
  refine ⟨?_, hfind⟩
  cases hlocate : (s.locate contract d).path with
  | none =>
    exact absurd hlies ((locate_eq_none_iff_lies hnamed hroot hcontract hdistinct hunlinked
      hread).1 hlocate names)
  | some path =>
    rcases locate_cases hlocate with ⟨names', hnames', hisFile, rfl⟩ | hfound
    · have hstands := (isFile_conventional_iff hnamed hroot hcontract hunlinked hnames').1 hisFile
      rw [honly names' hstands.1]
    · rw [← hfound, hfind]

end Below

/-! ## A root of many dots -/

/-- A path to the directory in which one is, as long as one likes. -/
def dots : Nat → String
  | 0 => "."
  | n + 1 => "." ++ "/" ++ dots n

theorem utf8ByteSize_dots (n : Nat) : (dots n).utf8ByteSize = 2 * n + 1 := by
  induction n with
  | zero => rfl
  | succ n ih =>
    have hdot : ".".utf8ByteSize = 1 := by decide
    have hslash : "/".utf8ByteSize = 1 := by decide
    rw [dots, String.utf8ByteSize_append, String.utf8ByteSize_append, ih, hdot, hslash]
    omega

theorem names_dots (n : Nat) : Disk.Path.names (dots n) = List.replicate (n + 1) "." := by
  induction n with
  | zero => decide
  | succ n ih =>
    have hdot : Disk.Path.names "." = ["."] := by decide
    rw [dots, Disk.Path.names_append_slash, ih, hdot]
    rfl

theorem toList_dots (n : Nat) :
    (dots n).toList.head? = some '.' ∧ (dots n).toList.getLast? = some '.' ∧
      (dots n).toList.contains '\x00' = false := by
  induction n with
  | zero => decide
  | succ n ih =>
    obtain ⟨hhead, hlast, hnul⟩ := ih
    have hne : (dots n).toList ≠ [] := by
      intro hnil
      simp [hnil] at hhead
    rw [dots]
    simp only [String.toList_append, List.append_assoc]
    refine ⟨rfl, ?_, ?_⟩
    · rw [List.getLast?_append_of_ne_nil _ (by simp), List.getLast?_append_of_ne_nil _ hne, hlast]
    · simpa using hnul

theorem dots_ne_empty (n : Nat) : dots n ≠ "" := by
  intro hempty
  have hhead := (toList_dots n).1
  simp [hempty] at hhead

theorem refused_dots {n : Nat} {t : String} (ht : t.toList.contains '\x00' = false) :
    Disk.refused (dots n ++ t) =
      if Disk.Path.maxBytes < 2 * n + 1 + t.utf8ByteSize then some .nameTooLong else none := by
  have hnul : (dots n ++ t).toList.contains '\x00' = false := by
    rw [String.toList_append, List.contains_append, (toList_dots n).2.2, ht]
    rfl
  have hempty : (dots n ++ t).isEmpty = false := by simp [dots_ne_empty]
  rw [Disk.refused, hnul, hempty, String.utf8ByteSize_append, utf8ByteSize_dots]
  rfl

/-- Two files of one name, the first of which is at no conventional place. -/
def twice : Disk.Node :=
  .dir [("build-artifacts", .dir [("T.json", .file ByteArray.empty)]),
    ("contracts", .dir [("T.sol", .dir [("T.json", .file ByteArray.empty)])])]

theorem pathBelow_dots (n : Nat) {names : List String}
    (h : ∀ name ∈ names, Disk.Path.IsName name) :
    pathBelow ⟨dots n⟩ names = dots n ++ String.join (names.map ("/" ++ ·)) := by
  refine Disk.Path.foldl_join_eq (dots_ne_empty n) ?_ h
  rw [Disk.Path.endsInSlash, (toList_dots n).2.1]
  rfl

theorem distinct_twice : twice.Distinct := by
  have hfile : (Disk.Node.file ByteArray.empty).Distinct := Disk.Node.distinct_leaf rfl
  have hone : (Disk.Node.dir [("T.json", .file ByteArray.empty)]).Distinct :=
    Disk.Node.distinct_dir (by simp) (by simp [hfile])
  have htwo : (Disk.Node.dir [("T.sol", .dir [("T.json", .file ByteArray.empty)])]).Distinct :=
    Disk.Node.distinct_dir (by simp) (by simp [hone])
  exact Disk.Node.distinct_dir (by simp) (by simp [hone, htwo])

theorem named_twice : twice.Named := by
  have hfile : (Disk.Node.file ByteArray.empty).Named := Disk.Node.named_of_leaf rfl
  have good {name : String} (h : '/' ∉ name.toList)
      (hname : name ≠ "" ∧ name ≠ "." ∧ name ≠ "..")
      (hfits : name.utf8ByteSize ≤ Disk.Path.maxNameBytes) :
      Disk.Path.IsName name ∧ Disk.Descends name ∧ Disk.FitsEntry name :=
    ⟨⟨hname.1, h⟩, hname, hfits⟩
  have one {name : String} {node : Disk.Node} (hnode : node.Named)
      (hname : Disk.Path.IsName name ∧ Disk.Descends name ∧ Disk.FitsEntry name) :
      (Disk.Node.dir [(name, node)]).Named :=
    Disk.Node.named_dir (by simpa using ⟨hname, hnode⟩)
  have hjson : (Disk.Node.dir [("T.json", .file ByteArray.empty)]).Named :=
    one hfile (good (by decide) (by decide) (by decide))
  have hsol : (Disk.Node.dir [("T.sol", .dir [("T.json", .file ByteArray.empty)])]).Named :=
    one hjson (good (by decide) (by decide) (by decide))
  refine Disk.Node.named_dir ?_
  simp only [List.forall_mem_cons, List.not_mem_nil]
  exact ⟨⟨good (by decide) (by decide) (by decide), hjson⟩,
    ⟨good (by decide) (by decide) (by decide), hsol⟩, by simp⟩

theorem unlinked_twice : twice.Unlinked := by
  refine Disk.Node.Plain.unlinked (.dir ?_)
  have hfile : (Disk.Node.file ByteArray.empty).Plain := .file rfl
  have hjson : (Disk.Node.dir [("T.json", .file ByteArray.empty)]).Plain :=
    .dir (by simp [hfile])
  have hsol : (Disk.Node.dir [("T.sol", .dir [("T.json", .file ByteArray.empty)])]).Plain :=
    .dir (by simp [hjson])
  simp [hjson, hsol]

theorem refused_pathBelow_dots (n : Nat) {names : List String} {size : Nat}
    (hnames : ∀ name ∈ names, Disk.Path.IsName name)
    (hnul : (String.join (names.map ("/" ++ ·))).toList.contains '\x00' = false)
    (hsize : (String.join (names.map ("/" ++ ·))).utf8ByteSize = size) :
    Disk.refused (pathBelow ⟨dots n⟩ names) =
      if Disk.Path.maxBytes < 2 * n + 1 + size then some .nameTooLong else none := by
  rw [pathBelow_dots n hnames, refused_dots hnul, hsize]

theorem isName_twice :
    Disk.Path.IsName "build-artifacts" ∧ Disk.Path.IsName "contracts" ∧
      Disk.Path.IsName "T.sol" ∧ Disk.Path.IsName "T.json" := by
  simp only [Disk.Path.IsName]
  decide

/-- All directories can be read as long as there are not too many dots. -/
theorem read_twice {n : Nat} (h : 2 * n + 17 ≤ Disk.Path.maxBytes) :
    ∀ names ∈ [[], ["build-artifacts"], ["contracts"], ["contracts", "T.sol"]],
      Disk.refused (pathBelow ⟨dots n⟩ names) = none := by
  obtain ⟨hbuild, hcontracts, hsol, -⟩ := isName_twice
  have read {names : List String} {size : Nat} (hnames : ∀ name ∈ names, Disk.Path.IsName name)
      (hnul : (String.join (names.map ("/" ++ ·))).toList.contains '\x00' = false)
      (hsize : (String.join (names.map ("/" ++ ·))).utf8ByteSize = size) (hfew : size ≤ 16) :
      Disk.refused (pathBelow ⟨dots n⟩ names) = none := by
    rw [refused_pathBelow_dots n hnames hnul hsize, if_neg (by omega)]
  intro names hnames
  simp only [List.mem_cons, List.not_mem_nil, or_false] at hnames
  rcases hnames with rfl | rfl | rfl | rfl
  · exact read (by simp) (by decide) (by decide) (Nat.zero_le _)
  · exact read (by simp [hbuild]) (by decide) (by decide) (Nat.le_refl _)
  · exact read (by simp [hcontracts]) (by decide) (by decide) (by decide : 10 ≤ 16)
  · exact read (by simp [hcontracts, hsol]) (by decide) (by decide) (Nat.le_refl _)

/-- The files can be opened as long as there are fewer dots. -/
theorem refused_twice (n : Nat) :
    ∀ names ∈ [["build-artifacts", "T.json"], ["contracts", "T.sol", "T.json"]],
      Disk.refused (pathBelow ⟨dots n⟩ names) =
        if Disk.Path.maxBytes < 2 * n + 1 + 23 then some .nameTooLong else none := by
  obtain ⟨hbuild, hcontracts, hsol, hjson⟩ := isName_twice
  intro names hnames
  simp only [List.mem_cons, List.not_mem_nil, or_false] at hnames
  rcases hnames with rfl | rfl
  · exact refused_pathBelow_dots n (by simp [hbuild, hjson]) (by decide) (by decide)
  · exact refused_pathBelow_dots n (by simp [hcontracts, hsol, hjson]) (by decide) (by decide)

theorem readable_twice {n : Nat} (h : 2 * n + 17 ≤ Disk.Path.maxBytes) :
    twice.ReadableAt (dots n) := by
  have hread := read_twice h
  simp only [List.forall_mem_cons] at hread
  obtain ⟨hroot, hbuild, hcontracts, hsol, -⟩ := hread
  have hfile (path : String) : (Disk.Node.file ByteArray.empty).ReadableAt path :=
    Disk.Node.readable_leaf rfl path
  have hjson {path : String} (hread : Disk.refused path = none) :
      (Disk.Node.dir [("T.json", .file ByteArray.empty)]).ReadableAt path :=
    Disk.Node.readable_dir hread (by simp [hfile])
  refine Disk.Node.readable_dir hroot ?_
  simp only [List.forall_mem_cons, List.not_mem_nil]
  refine ⟨hjson hbuild, Disk.Node.readable_dir hcontracts ?_, by simp⟩
  simp only [List.forall_mem_cons, List.not_mem_nil]
  exact ⟨hjson hsol, by simp⟩

theorem node_twice {n : Nat} (h : 2 * n + 17 ≤ Disk.Path.maxBytes) :
    ({ root := twice } : Disk).node (dots n) = .ok twice := by
  have hstart : Disk.start [] (dots n) = [] := by
    rw [Disk.start, Disk.Path.isAbsolute, (toList_dots n).1]
    rfl
  have hfollows (k : Nat) :
      Disk.Follows twice Disk.maxLinks [] (List.replicate k ".") Disk.maxLinks [] := by
    induction k with
    | zero => exact .arrive (Disk.Node.get?_nil _)
    | succ k ih => exact .step (.stay ⟨twice, Disk.Node.get?_nil _, rfl⟩ (.inr rfl)) ih
  have hwalk : Disk.Follows twice Disk.maxLinks (Disk.start [] (dots n))
      (Disk.Path.names (dots n)) Disk.maxLinks [] := by
    rw [hstart, names_dots]
    exact hfollows (n + 1)
  exact Disk.node_of_follows (readable_twice h [] _ (Disk.Node.get?_nil _)) hwalk
    (Disk.Node.get?_nil _) rfl

theorem lies_twice {n : Nat} (h : 2 * n + 17 ≤ Disk.Path.maxBytes) :
    Disk.LiesBelow { root := twice } (dots n) "T.json" ["build-artifacts", "T.json"] ∧
      Disk.LiesBelow { root := twice } (dots n) "T.json" ["contracts", "T.sol", "T.json"] := by
  refine ⟨⟨twice, node_twice h, rfl, .file ByteArray.empty, ?_, rfl⟩,
    ⟨twice, node_twice h, rfl, .file ByteArray.empty, ?_, rfl⟩⟩
  · simp [twice, Disk.Node.get?_cons, Disk.Node.entries]
  · simp [twice, Disk.Node.get?_cons, Disk.Node.entries, Disk.Node.lookup_cons_ite]

/-- The search comes to the file first that is at no conventional place. -/
theorem find_twice {n : Nat} (h : 2 * n + 17 ≤ Disk.Path.maxBytes) :
    (Disk.find { root := twice } (dots n) "T.json").path =
      some (pathBelow ⟨dots n⟩ ["build-artifacts", "T.json"]) := by
  have hread := read_twice h
  simp only [List.forall_mem_cons] at hread
  obtain ⟨hroot, hbuild, -⟩ := hread
  have hroot : Disk.refused (dots n) = none := hroot
  have hbuild : Disk.refused (Disk.Path.join (dots n) "build-artifacts") = none := hbuild
  have hlt : ("build-artifacts" : String) < "contracts" := by
    rw [String.lt_iff_toList_lt]
    decide
  rw [Disk.find, node_twice h]
  simp only [twice]
  rw [Disk.path_searchEntries (by simpa using hlt), hroot]
  simp only [Option.isSome_none, Bool.false_eq_true, if_false, List.findSome?_cons,
    Disk.searchNode]
  rw [Disk.path_searchEntries (by simp), hbuild]
  simp [Disk.searchNode, pathBelow]

theorem below_twice {n : Nat} (h : 2 * n + 17 ≤ Disk.Path.maxBytes) :
    Disk.UnlinkedBelow { root := twice } (dots n) ∧
      Disk.ReadableBelow { root := twice } (dots n) := by
  have only {top : Disk.Node} (htop : ({ root := twice } : Disk).node (dots n) = .ok top) :
      twice = top := Except.ok.inj ((node_twice h).symm.trans htop)
  exact ⟨fun top htop => only htop ▸ unlinked_twice, fun top htop => only htop ▸ readable_twice h⟩

/-! ## Agreement -/

/-- How looking at the conventional places first agrees with the search. -/
structure Agrees (s : Store) (contract : String) (d : Disk) : Prop where
  notFound : (s.locate contract d).path = none ↔
    (s.load contract d).1 = .error (.artifactNotFound s.root (fileName contract))
  search : (s.locate contract d).path = none ↔ (d.find s.root (fileName contract)).path = none
  nowhere : (s.locate contract d).path = none ↔
    ∀ names, ¬d.LiesBelow s.root (fileName contract) names
  /-- A single file of the name is found by both. -/
  only : ∀ names, d.LiesBelow s.root (fileName contract) names →
    (∀ names', d.LiesBelow s.root (fileName contract) names' → names' = names) →
      (s.locate contract d).path = some (s.pathBelow names) ∧
        (d.find s.root (fileName contract)).path = some (s.pathBelow names)
  /-- Of several files, the first that stands at a conventional place is found. -/
  first : ∀ before names after, conventionalNames contract = before ++ names :: after →
    s.Stands contract d names → (∀ names' ∈ before, ¬s.Stands contract d names') →
      (s.locate contract d).path = some (s.pathBelow names)
  /-- If none does, it is what the search finds. -/
  elsewhere : (∀ names ∈ conventionalNames contract, ¬s.Stands contract d names) →
    (s.locate contract d).path = (d.find s.root (fileName contract)).path

/-- A path that is found starts with the root, ends in the name of the file and is that of a file,
unless the search comes to a path that is not taken. Where nothing below the root is a link and all
directories can be read, the store and the search agree. -/
theorem locate_agrees (s : Store) (contract : String) (d : Disk) (hdistinct : d.root.Distinct)
    (hnamed : d.root.Named) (hroot : s.root ≠ "") (hcontract : '/' ∉ contract.toList) :
    (∀ path, (s.locate contract d).path = some path → s.Located contract d path) ∧
      (d.UnlinkedBelow s.root → d.ReadableBelow s.root → s.Agrees contract d) := by
  constructor
  · exact fun path h => located_of_locate hnamed hroot hcontract hdistinct h
  · intro hunlinked hread
    have hstands {names : List String} (hnames : names ∈ conventionalNames contract) :=
      isFile_conventional_iff hnamed hroot hcontract hunlinked hnames
    have hnone := locate_eq_none_iff_lies hnamed hroot hcontract hdistinct hunlinked hread
    exact {
      notFound := locate_eq_none_iff s contract d
      search := hnone.trans (find_eq_none_iff hdistinct hread).symm
      nowhere := hnone
      only := fun names hlies honly =>
        locate_only hnamed hroot hcontract hdistinct hunlinked hread hlies honly
      first := fun before names after hsplit hhere hbefore => by
        refine locate_first hsplit ((hstands (by simp [hsplit])).2 hhere) fun names' hnames' => ?_
        rw [Bool.eq_false_iff]
        exact fun hisFile =>
          hbefore names' hnames' ((hstands (by simp [hsplit, hnames'])).1 hisFile)
      elsewhere := fun hnowhere => by
        refine locate_eq_find fun names hnames => ?_
        rw [Bool.eq_false_iff]
        exact fun hisFile => hnowhere names hnames ((hstands hnames).1 hisFile) }

/-- A conventional place is found before the first match of the search. -/
theorem locate_agrees_twice :
    let s : Store := ⟨dots 0⟩
    let d : Disk := { root := twice }
    (d.root.Distinct ∧ d.root.Named ∧ s.root ≠ "" ∧ '/' ∉ "T".toList) ∧
      (d.find s.root "T.json").path = some (s.pathBelow ["build-artifacts", "T.json"]) ∧
      (s.locate "T" d).path = some (s.pathBelow ["contracts", "T.sol", "T.json"]) ∧
      s.Agrees "T" d := by
  intro s d
  have hbound : 2 * 0 + 17 ≤ Disk.Path.maxBytes := by decide
  have hslash : '/' ∉ "T".toList := by decide
  obtain ⟨hunlinked, hread⟩ := below_twice hbound
  have hagrees := (locate_agrees s "T" d distinct_twice named_twice (dots_ne_empty 0) hslash).2
    hunlinked hread
  refine ⟨⟨distinct_twice, named_twice, dots_ne_empty 0, hslash⟩, find_twice hbound, ?_, hagrees⟩
  refine hagrees.first [] _ _ rfl ⟨(lies_twice hbound).2, ?_⟩ (by simp)
  rw [refused_twice 0 _ (by simp)]
  rfl

/-- A file at a conventional place loses to another one, and that cannot be opened, where the paths
of both are longer than the operating system takes. -/
theorem locate_too_long :
    let s : Store := ⟨dots 2038⟩
    let d : Disk := { root := twice }
    (d.root.Distinct ∧ d.root.Named ∧ d.root.Unlinked ∧ d.ReadableBelow s.root) ∧
      (s.root ≠ "" ∧ '/' ∉ "T".toList) ∧
      d.LiesBelow s.root "T.json" ["contracts", "T.sol", "T.json"] ∧
      ∃ path, (s.locate "T" d).path = some path ∧ d.isFile path = false ∧
        path ∉ s.conventional "T" := by
  intro s d
  have hbound : 2 * 2038 + 17 ≤ Disk.Path.maxBytes := by decide
  have hslash : '/' ∉ "T".toList := by decide
  have hsample : d.root.Distinct ∧ d.root.Named ∧ d.root.Unlinked ∧ d.ReadableBelow s.root :=
    ⟨distinct_twice, named_twice, unlinked_twice, (below_twice hbound).2⟩
  have hisName {names : List String} (hnames : names ∈ conventionalNames "T") :
      ∀ name ∈ names, Disk.Path.IsName name :=
    fun name hname => ((names_of_conventional hslash hnames).2 name hname).1
  refine ⟨hsample, ⟨dots_ne_empty _, hslash⟩, (lies_twice hbound).2,
    s.pathBelow ["build-artifacts", "T.json"], ?_, ?_, ?_⟩
  · -- the path of no conventional place is taken, and so the search decides
    have hnone (names : List String) (hnames : names ∈ conventionalNames "T") :
        d.isFile (s.pathBelow names) = false := by
      have htaken := hisName hnames
      refine Disk.isFile_of_refused (?_ : _ = some .nameTooLong)
      simp only [conventionalNames, List.mem_cons, List.not_mem_nil, or_false] at hnames
      rcases hnames with rfl | rfl | rfl
      · rw [refused_pathBelow_dots 2038 htaken (by decide) (by decide : _ = 23)]
        decide
      · rw [refused_pathBelow_dots 2038 htaken (by decide) (by decide : _ = 23)]
        decide
      · rw [refused_pathBelow_dots 2038 htaken (by decide) (by decide : _ = 29)]
        decide
    rw [locate_eq_find hnone, fileName]
    exact find_twice hbound
  · refine Disk.isFile_of_refused (?_ : _ = some .nameTooLong)
    rw [refused_twice 2038 _ (by simp)]
    decide
  · rw [conventional_eq, List.mem_map]
    rintro ⟨names, hnames, heq⟩
    obtain ⟨hbuild, -, -, hjson⟩ := isName_twice
    rw [pathBelow_dots 2038 (hisName hnames), pathBelow_dots 2038 (by simp [hbuild, hjson])] at heq
    simp only [conventionalNames, List.mem_cons, List.not_mem_nil, or_false] at hnames
    rcases hnames with rfl | rfl | rfl <;> simp at heq

end ContractBindings.Store
