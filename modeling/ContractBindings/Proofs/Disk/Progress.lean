import ContractBindings.Proofs.Disk.Walk

/-!
# What writing changes

Writing outputs changes a disk in two ways only: directories are made where nothing stood, and the
outputs get other bytes, under all their names. `Progress` says so for every place of the disk, and
holds of several steps if it holds of each.

1. `Progress.identityAt`, `Progress.within`, `Progress.unlinked`: what stays as it was.
2. `Progress.leadsTo`, `Progress.leadsTo_leaf`: paths that lead somewhere lead there still.
3. `Progress.trans`: progress after progress is progress.
-/

namespace ContractBindings.Disk

/-! ## Looking at places -/

/-- What stands at a place, apart from what is below it. -/
def look (d : Disk) (place : List String) : Option Node := (d.root.get? place).map Node.bare

theorem look_eq_none {d : Disk} {place : List String} :
    d.look place = none ↔ d.root.get? place = none := by
  simp [look]

theorem look_of_get? {d : Disk} {place : List String} {node : Node}
    (h : d.root.get? place = some node) : d.look place = some node.bare := by
  simp [look, h]

@[simp] theorem Node.isDir_bare (node : Node) : node.bare.isDir = node.isDir := by
  cases node <;> rfl

@[simp] theorem Node.isFile_bare (node : Node) : node.bare.isFile = node.isFile := by
  cases node <;> rfl

/-- Apart from directories, a node is all that stands at its place. -/
theorem Node.bare_eq {node leaf : Node} (h : node.bare = leaf) (hleaf : leaf ≠ .dir []) :
    node = leaf := by
  cases node with
  | dir entries => exact absurd h.symm hleaf
  | _ => exact h

theorem Node.bare_of_leaf {node : Node} (h : node.isDir = false) :
    node.bare = node ∧ node ≠ .dir [] := by
  cases node with
  | dir entries => simp [isDir] at h
  | _ => exact ⟨rfl, by simp⟩

theorem get?_of_look {d : Disk} {place : List String} {leaf : Node}
    (h : d.look place = some leaf) (hleaf : leaf ≠ .dir []) : d.root.get? place = some leaf := by
  obtain ⟨node, hnode, hbare⟩ := Option.map_eq_some_iff.1 h
  rw [hnode, Node.bare_eq hbare hleaf]

theorem dir_of_look {d : Disk} {place : List String} (h : d.look place = some (.dir [])) :
    ∃ entries, d.root.get? place = some (.dir entries) := by
  obtain ⟨node, hnode, hbare⟩ := Option.map_eq_some_iff.1 h
  cases node with
  | dir entries => exact ⟨entries, hnode⟩
  | _ => simp [Node.bare] at hbare

theorem get?_eq_of_look {d e : Disk} {q : List String} (h : e.look q = d.look q)
    (hleaf : ∀ node, d.root.get? q = some node → node.isDir = false) :
    e.root.get? q = d.root.get? q := by
  cases hnode : d.root.get? q with
  | none => exact look_eq_none.1 (h.trans (look_eq_none.2 hnode))
  | some node =>
    obtain ⟨hbare, hnot⟩ := Node.bare_of_leaf (hleaf node hnode)
    have hlook := look_of_get? hnode
    rw [hbare] at hlook
    exact get?_of_look (h.trans hlook) hnot

/-- Disks in order with the same nodes at each place are the same, if the rest is. -/
theorem eq_of_look {d e : Disk} (hd : d.root.Ordered) (he : e.root.Ordered)
    (hhere : e.here = d.here) (hclock : e.clock = d.clock)
    (hlast : e.lastIdentity = d.lastIdentity) (h : ∀ q, e.look q = d.look q) : e = d := by
  have hroot : e.root = d.root := he.ext hd h
  cases d
  cases e
  simp_all

/-- The identity of the file at a place; zero where there is no file, or one with a single name. -/
def identityAt (d : Disk) (place : List String) : Nat :=
  match d.look place with
  | some (.file _ attributes) => attributes.identity
  | _ => 0

/-- The places are names of one file. -/
def SameFile (d : Disk) (p q : List String) : Prop :=
  d.identityAt p ≠ 0 ∧ d.identityAt q = d.identityAt p

/-- What is written at a place `p` stands at `q` too. -/
def Touches (d : Disk) (p q : List String) : Prop := q = p ∨ d.SameFile p q

/-- The file at a place has no other name. -/
def Single (d : Disk) (p : List String) : Prop := ∀ q, d.Touches p q → q = p

theorem Touches.refl (d : Disk) (p : List String) : d.Touches p p := .inl rfl

theorem Touches.symm {d : Disk} {p q : List String} (h : d.Touches p q) : d.Touches q p := by
  rcases h with rfl | ⟨hne, hsame⟩
  · exact .inl rfl
  · exact .inr ⟨hsame ▸ hne, hsame.symm⟩

theorem Touches.trans {d : Disk} {p q r : List String} (h : d.Touches p q) (h' : d.Touches q r) :
    d.Touches p r := by
  rcases h with rfl | ⟨hne, hsame⟩
  · exact h'
  · rcases h' with rfl | ⟨-, hsame'⟩
    · exact .inr ⟨hne, hsame⟩
    · exact .inr ⟨hne, hsame'.trans hsame⟩

theorem file_of_identityAt {d : Disk} {place : List String} (h : d.identityAt place ≠ 0) :
    ∃ bytes attributes, d.look place = some (.file bytes attributes) := by
  unfold identityAt at h
  split at h
  · next bytes attributes hlook => exact ⟨bytes, attributes, hlook⟩
  · exact absurd rfl h

theorem SameFile.files {d : Disk} {p q : List String} (h : d.SameFile p q) :
    (∃ bytes attributes, d.look p = some (.file bytes attributes)) ∧
      ∃ bytes attributes, d.look q = some (.file bytes attributes) :=
  ⟨file_of_identityAt h.1, file_of_identityAt (h.2 ▸ h.1)⟩

/-- A tree of directories and of files that have one name each, and of nothing else. -/
inductive Node.Plain : Node → Prop
  | file {bytes : ByteArray} {attributes : Attributes} :
      attributes.identity = 0 → Node.Plain (.file bytes attributes)
  | dir {entries : List (String × Node)} : (∀ e ∈ entries, e.2.Plain) → Node.Plain (.dir entries)

theorem Node.Plain.get? {root node : Node} (h : root.Plain) {place : List String}
    (hnode : root.get? place = some node) : node.Plain := by
  induction place generalizing root with
  | nil =>
    rw [Node.get?_nil, Option.some.injEq] at hnode
    exact hnode ▸ h
  | cons name place ih =>
    cases h with
    | file _ => simp [Node.get?_cons, Node.entries] at hnode
    | dir hentries =>
      obtain ⟨child, hmem, hbelow⟩ := Node.exists_entry_of_get? hnode
      exact ih (hentries _ hmem) hbelow

theorem Node.Plain.unlinked {root : Node} (h : root.Plain) : root.Unlinked :=
  fun _ _ hlink => nomatch h.get? hlink

theorem look_plain {d : Disk} (h : d.root.Plain) {place : List String} {node : Node}
    (hnode : d.look place = some node) :
    node = .dir [] ∨
      ∃ bytes attributes, node = .file bytes attributes ∧ attributes.identity = 0 := by
  obtain ⟨node, hget, rfl⟩ := Option.map_eq_some_iff.1 hnode
  cases h.get? hget with
  | file hid => exact .inr ⟨_, _, rfl, hid⟩
  | dir _ => exact .inl rfl

theorem identityAt_of_plain {d : Disk} (h : d.root.Plain) (place : List String) :
    d.identityAt place = 0 := by
  unfold identityAt
  split
  · next bytes attributes hlook =>
    rcases look_plain h hlook with hdir | ⟨_, _, hfile, hzero⟩
    · simp at hdir
    · rw [(Node.file.inj hfile).2]
      exact hzero
  · rfl

theorem single_of_plain {d : Disk} (h : d.root.Plain) (place : List String) : d.Single place :=
  fun _ htouch => htouch.resolve_right fun hsame => hsame.1 (identityAt_of_plain h place)

theorem look_ne_device {d : Disk} (h : d.root.Plain) (place : List String) (device : Device) :
    d.look place ≠ some (.device device) := by
  intro hdevice
  rcases look_plain h hdevice with hdir | ⟨_, _, hfile, -⟩
  · simp at hdir
  · simp at hfile

/-! ## Progress -/

/-- What stands somewhere after bytes were written there. A device stays what it is. -/
def Node.overwritten (clock : Nat) (bytes : ByteArray) : Option Node → Option Node
  | none => some (.file bytes { time := clock })
  | some (.file _ attributes) => some (.file bytes { attributes with time := clock })
  | some node => some node

@[simp] theorem Node.overwritten_ne_none (clock : Nat) (bytes : ByteArray) (before : Option Node) :
    Node.overwritten clock bytes before ≠ none := by
  cases before with
  | none => simp [overwritten]
  | some node => cases node <;> simp [overwritten]

/-- Only the bytes written last count. -/
theorem Node.overwritten_twice (clock : Nat) (bytes bytes' : ByteArray) (before : Option Node) :
    Node.overwritten clock bytes (Node.overwritten clock bytes' before) =
      Node.overwritten clock bytes before := by
  cases before with
  | none => rfl
  | some node => cases node <;> rfl

/-- Some bytes were written to a file, old or new, or nothing has changed but what may stand in a
device. -/
inductive Overwrites (clock : Nat) : Option Node → Option Node → Prop
  | new (bytes : ByteArray) : Overwrites clock none (some (.file bytes { time := clock }))
  | file (old bytes : ByteArray) (attributes : Attributes) :
      Overwrites clock (some (.file old attributes))
        (some (.file bytes { attributes with time := clock }))
  | same (leaf : Node) : leaf.isDir = false → Overwrites clock (some leaf) (some leaf)

section
variable {clock : Nat} {before after last : Option Node} {node : Node}

theorem Overwrites.trans (h : Overwrites clock before after) (h' : Overwrites clock after last) :
    Overwrites clock before last := by
  cases h with
  | new bytes =>
    cases h' with
    | file _ bytes' _ => exact .new bytes'
    | same _ _ => exact .new bytes
  | file old bytes attributes =>
    cases h' with
    | file _ bytes' _ => exact .file old bytes' attributes
    | same _ _ => exact .file old bytes attributes
  | same _ _ => exact h'

/-- What is there afterwards is no directory. -/
theorem Overwrites.leaf_after (h : Overwrites clock before after) :
    ∃ node, after = some node ∧ node.isDir = false := by
  cases h with
  | new _ => exact ⟨_, rfl, rfl⟩
  | file _ _ _ => exact ⟨_, rfl, rfl⟩
  | same leaf hleaf => exact ⟨leaf, rfl, hleaf⟩

/-- Where something was before, it is a file still, or the same. -/
theorem Overwrites.leaf_before (h : Overwrites clock (some node) after) :
    node.isDir = false ∧
      ∃ node', after = some node' ∧ node'.isDir = false ∧ node'.isFile = node.isFile := by
  cases h with
  | file _ _ _ => exact ⟨rfl, _, rfl, rfl, rfl⟩
  | same _ hleaf => exact ⟨hleaf, _, rfl, hleaf, rfl⟩

theorem overwrites_overwritten (bytes : ByteArray)
    (h : ∀ node, before = some node → node.isDir = false) :
    Overwrites clock before (Node.overwritten clock bytes before) := by
  cases before with
  | none => exact .new bytes
  | some node =>
    cases node with
    | file old attributes => exact .file old bytes attributes
    | _ => exact .same _ (h _ rfl)

theorem Overwrites.overwritten (h : Overwrites clock before after) (bytes : ByteArray) :
    Node.overwritten clock bytes after = Node.overwritten clock bytes before := by
  cases h with
  | new _ => rfl
  | file _ _ _ => rfl
  | same _ _ => rfl

end

/-- Between two disks bytes were written at some places, and directories were made where nothing
stood, each at the end of a path from a list. -/
structure Progress (above : List String) (written : List (List String)) (d d' : Disk) : Prop where
  here : d'.here = d.here
  clock : d'.clock = d.clock
  lastIdentity : d'.lastIdentity = d.lastIdentity
  ordered : d.root.Ordered → d'.root.Ordered
  elsewhere : ∀ q, (∀ p ∈ written, ¬d.Touches p q) → d'.look q = d.look q ∨
    (d.look q = none ∧ d'.look q = some (.dir []) ∧
      ∃ path ∈ above, ∃ node, d'.LeadsTo path q node)
  overwrites : ∀ p ∈ written, ∀ q, d.Touches p q → Overwrites d.clock (d.look q) (d'.look q)

variable {above : List String} {written written' : List (List String)} {d d' d'' : Disk}

theorem Progress.refl (above : List String) (d : Disk) : Progress above [] d d where
  here := rfl
  clock := rfl
  lastIdentity := rfl
  ordered := id
  elsewhere _ _ := .inl rfl
  overwrites _ h := by simp at h

/-- Nothing has changed at places that could be written to. -/
theorem Progress.same (above : List String) (h : ∀ p ∈ written, ∃ node, d.look p = some node ∧
    node.isDir = false) : Progress above written d d where
  here := rfl
  clock := rfl
  lastIdentity := rfl
  ordered := id
  elsewhere _ _ := .inl rfl
  overwrites p hp q htouch := by
    obtain ⟨node, hnode, hleaf⟩ : ∃ node, d.look q = some node ∧ node.isDir = false := by
      rcases htouch with rfl | hsame
      · exact h q hp
      · obtain ⟨bytes, attributes, hfile⟩ := hsame.files.2
        exact ⟨_, hfile, rfl⟩
    rw [hnode]
    exact .same node hleaf

/-- At each place nothing has changed, or there is a new directory, or bytes were written. -/
theorem Progress.cases (h : Progress above written d d') (q : List String) :
    d'.look q = d.look q ∨ (d.look q = none ∧ d'.look q = some (.dir [])) ∨
      Overwrites d.clock (d.look q) (d'.look q) := by
  by_cases htouch : ∃ p ∈ written, d.Touches p q
  · obtain ⟨p, hp, htouch⟩ := htouch
    exact .inr (.inr (h.overwrites p hp q htouch))
  · rcases h.elsewhere q fun p hp ht => htouch ⟨p, hp, ht⟩ with hsame | ⟨hnone, hdir, -⟩
    · exact .inl hsame
    · exact .inr (.inl ⟨hnone, hdir⟩)

/-- Where there was no device, there is none. -/
theorem Progress.noDevice (h : Progress above written d d') {q : List String}
    (hdevice : ∀ device, d.look q ≠ some (.device device)) (device : Device) :
    d'.look q ≠ some (.device device) := by
  intro hlook
  rcases h.cases q with hsame | ⟨-, hdir⟩ | hover
  · exact hdevice device (hsame.symm.trans hlook)
  · simp [hdir] at hlook
  · generalize d.look q = before at hover hdevice
    rw [hlook] at hover
    cases hover with
    | same _ _ => exact hdevice device rfl

/-- Where no directory is made, nothing changes but what is written to. -/
theorem Progress.untouched (h : Progress [] written d d') {q : List String}
    (hq : ∀ p ∈ written, ¬d.Touches p q) : d'.look q = d.look q := by
  rcases h.elsewhere q hq with hsame | ⟨-, -, path, hpath, -⟩
  · exact hsame
  · simp at hpath

/-- What stands where nothing stood is a directory, or was written there. -/
theorem Progress.new (h : Progress above written d d') {q : List String}
    (hnone : d.look q = none) (hmem : q ∉ written) :
    d'.look q = none ∨ d'.look q = some (.dir []) := by
  have helse (p : List String) (hp : p ∈ written) : ¬d.Touches p q := by
    rintro (rfl | hsame)
    · exact hmem hp
    · -- another name of a file is not empty
      obtain ⟨_, _, hlook⟩ := hsame.files.2
      simp [hnone] at hlook
  rcases h.elsewhere q helse with hsame | ⟨-, hdir, -⟩
  · exact .inl (hsame.trans hnone)
  · exact .inr hdir

/-- What stood somewhere still stands there, or is a file that was written to. -/
theorem Progress.kept (h : Progress above written d d') {q : List String} {node : Node}
    (hnode : d.look q = some node) :
    d'.look q = some node ∨
      (node.isDir = false ∧
        ∃ node', d'.look q = some node' ∧ node'.isDir = false ∧ node'.isFile = node.isFile) := by
  rcases h.cases q with hsame | ⟨hnone, -⟩ | hover
  · exact .inl (hsame.trans hnode)
  · simp [hnone] at hnode
  · rw [hnode] at hover
    exact .inr hover.leaf_before

/-- Files stay files, and nothing else becomes one. -/
theorem Progress.isFile (h : Progress above written d d') {q : List String} {node node' : Node}
    (hnode : d.root.get? q = some node) (hnode' : d'.root.get? q = some node') :
    node'.isFile = node.isFile := by
  have hlook' := look_of_get? hnode'
  rcases h.kept (look_of_get? hnode) with hsame | ⟨-, leaf, hafter, -, hkind⟩
  · rw [hlook', Option.some.injEq] at hsame
    rw [← Node.isFile_bare node', hsame, Node.isFile_bare]
  · rw [hlook', Option.some.injEq] at hafter
    rw [← Node.isFile_bare node', hafter, hkind, Node.isFile_bare]

/-- Directories stay directories. -/
theorem Progress.dir (h : Progress above written d d') {q : List String}
    {entries : List (String × Node)} (hdir : d.root.get? q = some (.dir entries)) :
    ∃ entries', d'.root.get? q = some (.dir entries') := by
  rcases h.kept (look_of_get? hdir) with hsame | ⟨hleaf, -⟩
  · exact dir_of_look hsame
  · simp [Node.isDir] at hleaf

theorem Progress.within (h : Progress above written d d') : d.root.Within d'.root := by
  intro place node hnode
  rcases h.kept (look_of_get? hnode) with hsame | ⟨hnot, node', hnode', -⟩
  · obtain ⟨node', hnode', hbare⟩ := Option.map_eq_some_iff.1 hsame
    refine ⟨node', hnode', ?_⟩
    rw [← Node.isDir_bare node, ← hbare, Node.isDir_bare]
    exact id
  · obtain ⟨node', hnode', -⟩ := Option.map_eq_some_iff.1 hnode'
    rw [Node.isDir_bare] at hnot
    exact ⟨node', hnode', fun hdir => absurd hdir (by simp [hnot])⟩

theorem Progress.unlinked (h : Progress above written d d') (hd : d.root.Unlinked) :
    d'.root.Unlinked := by
  intro place target hlink
  have hlook := look_of_get? hlink
  have hbefore : d.look place ≠ some (.link target) :=
    fun hlink => hd place target (get?_of_look hlink (by simp))
  rcases h.cases place with hsame | ⟨-, hdir⟩ | hover
  · exact hbefore (hsame.symm.trans hlook)
  · simp [hdir] at hlook
  · generalize d.look place = before at hover hbefore
    rw [hlook] at hover
    cases hover with
    | same _ _ => exact hbefore rfl

/-- Files keep their identities. -/
theorem Progress.identityAt (h : Progress above written d d') (q : List String) :
    d'.identityAt q = d.identityAt q := by
  unfold Disk.identityAt
  rcases h.cases q with hsame | ⟨hnone, hdir⟩ | hover
  · rw [hsame]
  · rw [hnone, hdir]
  · generalize d.look q = before at hover
    generalize d'.look q = after at hover
    cases hover <;> rfl

theorem Progress.touches (h : Progress above written d d') (p q : List String) :
    d'.Touches p q ↔ d.Touches p q := by
  rw [Touches, Touches, SameFile, SameFile, h.identityAt, h.identityAt]

theorem Progress.place (h : Progress above written d d') (path : String) :
    d'.place path = d.place path := by
  rw [Disk.place, Disk.place, h.here]

theorem Progress.place_eq (h : Progress above written d d') : d'.place = d.place :=
  funext h.place

/-- A path that led to a node leads to its place still. -/
theorem Progress.leadsTo (h : Progress above written d d') {path : String}
    {place : List String} {node : Node} (hleads : d.LeadsTo path place node) :
    ∃ node', d'.LeadsTo path place node' := by
  obtain ⟨node', hleads'⟩ := hleads.2.mono h.within
  exact ⟨node', hleads.1, by rwa [h.here]⟩

theorem Progress.isDir (h : Progress above written d d') (hroot : d.root.Unlinked) {path : String}
    (hdir : d.isDir path) : d'.isDir path := by
  obtain ⟨place, node, hleads, hisDir⟩ := (isDir_iff hroot).1 hdir
  obtain ⟨node', hleads'⟩ := h.leadsTo hleads
  obtain ⟨node'', hnode'', himp⟩ := h.within place node hleads.2.place.2
  obtain rfl := Option.some.inj (hnode''.symm.trans hleads'.2.place.2)
  exact (isDir_iff (h.unlinked hroot)).2 ⟨place, node'', hleads', himp hisDir⟩

/-- A path that led to a file leads to the same file still, if nothing was written to it. -/
theorem Progress.leadsTo_leaf (h : Progress above written d d') {path : String}
    {place : List String} {node : Node} (hleads : d.LeadsTo path place node)
    (hleaf : node.isDir = false) (helse : ∀ p ∈ written, ¬d.Touches p place) :
    d'.LeadsTo path place node := by
  obtain ⟨node', hleads'⟩ := h.leadsTo hleads
  obtain ⟨hbare, hnot⟩ := Node.bare_of_leaf hleaf
  have hlook := look_of_get? hleads.2.place.2
  rw [hbare] at hlook
  rcases h.elsewhere place helse with hsame | ⟨hnone, -⟩
  · have hget := get?_of_look (hsame.trans hlook) hnot
    obtain rfl := Option.some.inj (hget.symm.trans hleads'.2.place.2)
    exact hleads'
  · rw [hnone] at hlook
    simp at hlook

/-- Progress after progress. -/
theorem Progress.trans (h : Progress above written d d') (h' : Progress above written' d' d'') :
    Progress above (written ++ written') d d'' where
  here := h'.here.trans h.here
  clock := h'.clock.trans h.clock
  lastIdentity := h'.lastIdentity.trans h.lastIdentity
  ordered hd := h'.ordered (h.ordered hd)
  elsewhere q hq := by
    have hq' (p : List String) (hp : p ∈ written') : ¬d'.Touches p q :=
      fun htouch => hq p (List.mem_append_right _ hp) ((h.touches p q).1 htouch)
    rcases h.elsewhere q fun p hp => hq p (List.mem_append_left _ hp) with
      hsame | ⟨hnone, hdir, path, hpath, node, hleads⟩
    · rw [← hsame]
      exact h'.elsewhere q hq'
    · right
      refine ⟨hnone, ?_, path, hpath, h'.leadsTo hleads⟩
      rcases h'.elsewhere q hq' with hsame' | ⟨hnone', -⟩
      · exact hsame'.trans hdir
      · simp [hnone'] at hdir
  overwrites p hp q htouch := by
    by_cases hw : ∃ p ∈ written, d.Touches p q
    · obtain ⟨p, hp, htouch⟩ := hw
      -- written first, and perhaps once more
      have hover := h.overwrites p hp q htouch
      obtain ⟨node, hnode, hleaf⟩ := hover.leaf_after
      rcases h'.cases q with hsame | ⟨hnone, -⟩ | hover'
      · exact hsame ▸ hover
      · simp [hnone] at hnode
      · exact hover.trans (h.clock ▸ hover')
    · -- not written before: then it is no directory that was made before either
      have hmem : p ∈ written' :=
        (List.mem_append.1 hp).resolve_left fun hp => hw ⟨p, hp, htouch⟩
      have hover := h.clock ▸ h'.overwrites p hmem q ((h.touches p q).2 htouch)
      rcases h.elsewhere q fun p hp ht => hw ⟨p, hp, ht⟩ with hsame | ⟨-, hdir, -⟩
      · exact hsame ▸ hover
      · rw [hdir] at hover
        simpa [Node.isDir] using hover.leaf_before.1

end ContractBindings.Disk
