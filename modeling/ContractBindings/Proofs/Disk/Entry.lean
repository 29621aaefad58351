import ContractBindings.Proofs.Disk.Following
import ContractBindings.Proofs.Disk.Outputs

/-!
# Files in the directory at hand

A path can name an entry of the directory in which a program works, by itself or after `./`. What
comes of a text that is written to it is told by that entry alone: links lead to another entry, and
files with other names change under all of them.

1. `Names.walk`, `node_below`, `node_link`: where such a path leads.
2. `writeText_entry`, `writeText_link`: the place to which a text goes.
3. `writeOutput_plain`, `writeOutput_shared`, `writeOutput_null`, `writeOutput_link`: the disk
   afterwards, where the directory is the root.
4. `writeOutputs_two`: two outputs that can be written one after the other.
-/

namespace ContractBindings.Disk

/-! ## Where paths lead -/

/-- The path names what is reached by going down from the directory in which a program works. -/
structure Names (path : String) (names : List String) : Prop where
  refused : refused path = none
  relative : Path.isAbsolute path = false
  steps : Path.steps path = names ∨ Path.steps path = "." :: names
  real : ∀ name ∈ names, Descends name ∧ FitsEntry name

instance (path : String) (names : List String) : Decidable (Names path names) :=
  decidable_of_iff (refused path = none ∧ Path.isAbsolute path = false ∧
      (Path.steps path = names ∨ Path.steps path = "." :: names) ∧
      ∀ name ∈ names, Descends name ∧ FitsEntry name)
    ⟨fun ⟨hrefused, hrelative, hsteps, hreal⟩ => ⟨hrefused, hrelative, hsteps, hreal⟩,
      fun h => ⟨h.refused, h.relative, h.steps, h.real⟩⟩

variable {root node : Node} {place names : List String} {entries : List (String × Node)}
  {path target name name' : String} {d : Disk}

theorem Names.start (h : Names path names) (place : List String) :
    Disk.start place path = place := by
  rw [Disk.start, h.relative]
  rfl

theorem Names.walkFrom (h : Names path names) (hdir : root.get? place = some (.dir entries))
    (atEnd : AtEnd) (links : Nat) :
    walkFrom root atEnd links place (Path.steps path) = walkFrom root atEnd links place names := by
  rcases h.steps with hsteps | hsteps
  · rw [hsteps]
  · rw [hsteps, walkFrom_stay (dirAt_dir hdir) (.inr rfl)]

theorem Names.walk (h : Names path names) (hdir : d.root.get? d.here = some (.dir entries))
    (atEnd : AtEnd) : d.walk path atEnd = Disk.walkFrom d.root atEnd maxLinks d.here names := by
  rw [Disk.walk, h.refused]
  simp only [h.start, h.walkFrom hdir]

/-- A walk may end at any entry but a link. -/
theorem walkFrom_entry {atEnd : AtEnd} {links : Nat} (hname : Descends name ∧ FitsEntry name)
    (hdir : root.get? place = some (.dir entries)) (hentry : entries.lookup name = some node)
    (hlink : ∀ target, node ≠ .link target) :
    walkFrom root atEnd links place [name] = .ok (.node (place ++ [name]) node) := by
  obtain ⟨⟨hempty, hdot, hup⟩, hfits⟩ := hname
  have hnode : root.get? (place ++ [name]) = some node := (get?_entry hdir name).trans hentry
  have hend : walkFrom root atEnd links (place ++ [name]) [] = .ok (.node (place ++ [name]) node) :=
    by rw [walkFrom, hnode]
  rw [walkFrom, hdir]
  simp only [hempty, hdot, hup, Nat.not_lt.2 hfits, hentry, or_self, if_false, reduceCtorEq,
    and_false, List.nil_eq]
  cases node with
  | link target => exact absurd rfl (hlink target)
  | _ => exact hend

theorem walkFrom_vacancy {atEnd : AtEnd} {links : Nat} (hname : Descends name ∧ FitsEntry name)
    (hdir : root.get? place = some (.dir entries)) (hentry : entries.lookup name = none) :
    walkFrom root atEnd links place [name] = .ok (.vacant place name) := by
  obtain ⟨⟨hempty, hdot, hup⟩, hfits⟩ := hname
  rw [walkFrom, hdir]
  simp [hempty, hdot, hup, Nat.not_lt.2 hfits, hentry]

/-- A link is followed, unless the walk is to stop at it. -/
theorem walkFrom_link {atEnd : AtEnd} {links : Nat} (hname : Descends name ∧ FitsEntry name)
    (hend : atEnd ≠ .stay) (hdir : root.get? place = some (.dir entries))
    (hlink : entries.lookup name = some (.link target)) (htarget : Names target names) :
    walkFrom root atEnd (links + 1) place [name] = walkFrom root atEnd links place names := by
  obtain ⟨⟨hempty, hdot, hup⟩, hfits⟩ := hname
  rw [walkFrom, hdir]
  simp only [hempty, hdot, hup, Nat.not_lt.2 hfits, hlink, hend, or_self, if_false, reduceCtorEq,
    and_false, List.nil_eq, List.append_nil]
  rw [htarget.start, htarget.walkFrom hdir]

/-- A path leads to what stands where it goes down to, unless that is a link. -/
theorem node_below (h : Names path names) (hdir : d.root.get? d.here = some (.dir entries))
    (hnode : d.root.get? (d.here ++ names) = some node) (hlink : ∀ target, node ≠ .link target) :
    d.node path = .ok node := by
  rw [Disk.node, h.walk hdir, walkFrom_down h.real hnode hlink]

/-- A path to a link leads where its target does. -/
theorem node_link (h : Names path [name]) (htarget : Names target names)
    (hdir : d.root.get? d.here = some (.dir entries))
    (hentry : entries.lookup name = some (.link target))
    (hnode : d.root.get? (d.here ++ names) = some node) (hlink : ∀ target, node ≠ .link target) :
    d.node path = .ok node := by
  have hname := h.real name (List.mem_singleton_self name)
  rw [Disk.node, h.walk hdir, maxLinks, walkFrom_link hname (by decide) hdir hentry htarget,
    walkFrom_down htarget.real hnode hlink]

/-! ## Where texts go -/

/-- A text can be written to a path to the entry as it is. -/
def Node.Receives (node : Node) : Prop := node.isDir = false ∧ ∀ target, node ≠ .link target

theorem filePlace_of_walk (h : d.walk path .write =
    walkFrom d.root .write links d.here [name]) (hname : Descends name ∧ FitsEntry name)
    (hdir : d.root.get? d.here = some (.dir entries))
    (hentry : ∀ node, entries.lookup name = some node → node.Receives) :
    d.filePlace path = .ok (d.here ++ [name]) := by
  cases hlook : entries.lookup name with
  | none =>
    rw [filePlace, h, walkFrom_vacancy hname hdir hlook]
    simp [seal?, hdir]
  | some node =>
    obtain ⟨hleaf, hlink⟩ := hentry node hlook
    rw [filePlace, h, walkFrom_entry hname hdir hlook hlink]
    simp [hleaf]

/-- A text goes to the entry that its path names, or makes that entry. -/
theorem writeText_entry (h : Names path [name]) (hdir : d.root.get? d.here = some (.dir entries))
    (hentry : ∀ node, entries.lookup name = some node → node.Receives) (text : String) :
    d.writeText path text = d.writeAt (d.here ++ [name]) (Text.toBytes text) := by
  have hname := h.real name (List.mem_singleton_self name)
  rw [writeText, writeBytes, filePlace_of_walk (h.walk hdir .write) hname hdir hentry]
  rfl

/-- A text for a link goes to the entry that the link names. -/
theorem writeText_link (h : Names path [name]) (htarget : Names target [name'])
    (hdir : d.root.get? d.here = some (.dir entries))
    (hlink : entries.lookup name = some (.link target))
    (hentry : ∀ node, entries.lookup name' = some node → node.Receives) (text : String) :
    d.writeText path text = d.writeAt (d.here ++ [name']) (Text.toBytes text) := by
  have hname := h.real name (List.mem_singleton_self name)
  have hwalk := h.walk hdir .write
  rw [maxLinks, walkFrom_link hname (by decide) hdir hlink htarget] at hwalk
  rw [writeText, writeBytes, filePlace_of_walk hwalk (htarget.real name' (by simp)) hdir hentry]
  rfl

/-! ## The directory above -/

/-- The path has nothing above it but the directory in which a program works. -/
def HasNoParent (path : String) : Prop :=
  Path.parent? path = some "" ∨ Path.parent? path = some "."

instance (path : String) : Decidable (HasNoParent path) :=
  inferInstanceAs (Decidable (_ ∨ _))

theorem createDirAll_here (hdir : d.root.get? d.here = some (.dir entries)) :
    d.createDirAll "." = (.ok (), d) := by
  have hnames : Path.names "." = ["."] := by decide
  have hancestors : Path.ancestors "." = ["."] := by decide
  have hrefused : refused "." = none := by decide
  have hhere : Names "." [] := by decide
  have hstay : walkFrom d.root .stay maxLinks d.here ["."] = .ok (.node d.here (.dir entries)) := by
    rw [walkFrom_stay (dirAt_dir hdir) (.inr rfl), walkFrom, hdir]
  have hof : d.directoryOf "." = .ok d.here := by
    rw [directoryOf, hrefused]
    simp only [hnames, hhere.start, List.dropLast_singleton]
    rw [walkFrom, hdir]
    rfl
  have hcreate : d.createDir "." = .error .alreadyExists := by
    rw [createDir, hof, hnames]
    simp only [List.getLast?_singleton, hstay]
  have hisDir : d.isDir "." = true := by
    rw [isDir, node_below hhere hdir (by simpa using hdir) (by simp)]
    rfl
  rw [createDirAll, hancestors, createEach, hcreate]
  simp [hisDir]

theorem writeOutput_here (hparent : HasNoParent path)
    (hdir : d.root.get? d.here = some (.dir entries)) (text : String) :
    d.writeOutput path text =
      match d.writeText path text with
      | .ok d => (.ok (), d)
      | .error fault => (.error fault, d) := by
  have hmade : d.makeParent path = (.ok (), d) := by
    rcases hparent with hparent | hparent
    · rw [makeParent, hparent]
      rfl
    · rw [makeParent, hparent]
      exact createDirAll_here hdir
  rw [writeOutput_eq]
  cases hwritten : d.writeText path text <;> simp only [hmade, hwritten]

/-! ## The disk afterwards -/

section Root

variable {bytes : ByteArray} {attributes : Attributes}

/-- A disk where a program works at the root. -/
def atRoot (entries : List (String × Node)) : Disk := { root := .dir entries }

theorem writeOutput_of_writeAt (h : Names path [name]) (hparent : HasNoParent path)
    (hentry : ∀ node, entries.lookup name = some node → node.Receives) {text : String} {d' : Disk}
    (hwritten : (atRoot entries).writeAt [name] (Text.toBytes text) = .ok d') :
    (atRoot entries).writeOutput path text = (.ok (), d') := by
  have hdir : (atRoot entries).root.get? (atRoot entries).here = some (.dir entries) := rfl
  have hwrite := writeText_entry h hdir hentry text
  rw [writeOutput_here hparent hdir, hwrite.trans hwritten]

theorem writeAt_plain
    (hentry : ∀ node, entries.lookup name = some node → ∃ bytes, node = .file bytes)
    (bytes : ByteArray) :
    (atRoot entries).writeAt [name] bytes =
      .ok (atRoot (Node.setEntry name (.file bytes) entries)) := by
  have hlook : (atRoot entries).root.get? [name] = entries.lookup name := by
    simp [atRoot, Node.get?_cons, Node.entries]
  cases hnode : entries.lookup name with
  | none =>
    rw [writeAt, hlook, hnode]
    rfl
  | some node =>
    obtain ⟨old, rfl⟩ := hentry node hnode
    rw [writeAt, hlook, hnode]
    rfl

/-- A text goes to a file without other names, or where nothing is yet. -/
theorem writeOutput_plain (h : Names path [name]) (hparent : HasNoParent path)
    (hentry : ∀ node, entries.lookup name = some node → ∃ bytes, node = .file bytes)
    (text : String) :
    (atRoot entries).writeOutput path text =
      (.ok (), atRoot (Node.setEntry name (.file (Text.toBytes text)) entries)) := by
  refine writeOutput_of_writeAt h hparent ?_ (writeAt_plain hentry _)
  intro node hnode
  obtain ⟨bytes, rfl⟩ := hentry node hnode
  exact ⟨rfl, by simp⟩

/-- A text for a file with other names is what they all hold. -/
theorem writeOutput_shared (h : Names path [name]) (hparent : HasNoParent path)
    (hentry : entries.lookup name = some (.file bytes attributes))
    (hshared : attributes.identity ≠ 0) (text : String) :
    (atRoot entries).writeOutput path text =
      (.ok (), atRoot (Node.rewriteAll attributes.identity 0 (Text.toBytes text) entries)) := by
  refine writeOutput_of_writeAt h hparent ?_ ?_
  · intro node hnode
    obtain rfl := Option.some.inj (hentry.symm.trans hnode)
    exact ⟨rfl, by simp⟩
  · have hlook : (atRoot entries).root.get? [name] = some (.file bytes attributes) := by
      simpa [atRoot, Node.get?_cons, Node.entries] using hentry
    rw [writeAt, hlook]
    simp [hshared, atRoot, Node.rewrite]

/-- The null device takes a text and keeps nothing. -/
theorem writeOutput_null (h : Names path [name]) (hparent : HasNoParent path)
    (hentry : entries.lookup name = some (.device .null)) (text : String) :
    (atRoot entries).writeOutput path text = (.ok (), atRoot entries) := by
  refine writeOutput_of_writeAt h hparent ?_ ?_
  · intro node hnode
    obtain rfl := Option.some.inj (hentry.symm.trans hnode)
    exact ⟨rfl, by simp⟩
  · have hlook : (atRoot entries).root.get? [name] = some (.device .null) := by
      simpa [atRoot, Node.get?_cons, Node.entries] using hentry
    rw [writeAt, hlook]

/-- A text for a link goes to the file that the link names. -/
theorem writeOutput_link (h : Names path [name]) (htarget : Names target [name'])
    (hparent : HasNoParent path) (hlink : entries.lookup name = some (.link target))
    (hentry : entries.lookup name' = some (.file bytes)) (text : String) :
    (atRoot entries).writeOutput path text =
      (.ok (), atRoot (Node.setEntry name' (.file (Text.toBytes text)) entries)) := by
  have hdir : (atRoot entries).root.get? (atRoot entries).here = some (.dir entries) := rfl
  have hfile (node : Node) (hnode : entries.lookup name' = some node) :
      ∃ bytes, node = .file bytes :=
    ⟨bytes, (Option.some.inj (hentry.symm.trans hnode)).symm⟩
  have hreceives (node : Node) (hnode : entries.lookup name' = some node) : node.Receives := by
    obtain ⟨bytes, rfl⟩ := hfile node hnode
    exact ⟨rfl, by simp⟩
  have hwrite := writeText_link h htarget hdir hlink hreceives text
  rw [writeOutput_here hparent hdir, hwrite.trans (writeAt_plain hfile _)]

/-- Two outputs that can be written one after the other. -/
theorem writeOutputs_two {d₁ d₂ : Disk} {path' text text' : String}
    (h : d.writeOutput path text = (.ok (), d₁)) (h' : d₁.writeOutput path' text' = (.ok (), d₂)) :
    let w := d.writeOutputs [(path, text), (path', text')]
    w.failure = none ∧ w.disk = d₂ := by
  simp only [writeOutputs, h, h', and_self]

end Root

end ContractBindings.Disk
