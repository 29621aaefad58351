import ContractBindings.Disk.Basic
import ContractBindings.Proofs.Disk.Node

/-!
# Walks without links

On a tree without symbolic links a walk goes where the steps of its path say: up at `..`, down at a
name, nowhere at `.` (`resolve`). `Leads` says so as a relation, without fuel and without links.

1. `walkFrom_iff`: a walk succeeds just where `Leads` holds.
2. `Leads.place`, `Leads.vacancy`: what stands where a walk ends.
3. `Leads.append`, `Leads.split`: a walk along several steps is one walk after another.
4. `Leads.mono`: a walk to a node still leads to its place when nodes are added.
-/

namespace ContractBindings.Disk

/-- Nothing in the tree is a symbolic link. -/
def Node.Unlinked (root : Node) : Prop :=
  ∀ place target, root.get? place ≠ some (.link target)

/-- A directory stands at the place. -/
def Node.DirAt (root : Node) (place : List String) : Prop :=
  ∃ node, root.get? place = some node ∧ node.isDir

/-- The step goes down to an entry of a directory. -/
def Descends (name : String) : Prop := name ≠ "" ∧ name ≠ "." ∧ name ≠ ".."

/-- The name is not too long for an entry of a directory. -/
def FitsEntry (name : String) : Prop := name.utf8ByteSize ≤ Path.maxNameBytes

instance (name : String) : Decidable (Descends name) :=
  inferInstanceAs (Decidable (_ ∧ _))

instance (name : String) : Decidable (FitsEntry name) :=
  inferInstanceAs (Decidable (_ ≤ _))

/-- Where steps lead from a place if all of them can be taken. -/
def resolve (place : List String) : List String → List String
  | [] => place
  | name :: rest =>
    if name = "" ∨ name = "." then resolve place rest
    else if name = ".." then resolve place.dropLast rest
    else resolve (place ++ [name]) rest

/-- `Leads root place steps spot`: the steps can be taken from the place, and end at the spot. -/
inductive Leads (root : Node) : List String → List String → Spot → Prop
  | arrive {place : List String} {node : Node} :
      root.get? place = some node → Leads root place [] (.node place node)
  | stay {place rest : List String} {name : String} {spot : Spot} :
      root.DirAt place → name = "" ∨ name = "." → Leads root place rest spot →
      Leads root place (name :: rest) spot
  | up {place rest : List String} {spot : Spot} :
      root.DirAt place → Leads root place.dropLast rest spot →
      Leads root place (".." :: rest) spot
  | down {place rest : List String} {name : String} {spot : Spot} {node : Node} :
      root.DirAt place → Descends name → FitsEntry name →
      root.get? (place ++ [name]) = some node → Leads root (place ++ [name]) rest spot →
      Leads root place (name :: rest) spot
  | vacant {place : List String} {name : String} {entries : List (String × Node)} :
      root.get? place = some (.dir entries) → Descends name → FitsEntry name →
      root.get? (place ++ [name]) = none → Leads root place [name] (.vacant place name)
  | sealedOff {place : List String} {name : String} {forDirectory forFile : Fault} :
      root.get? place = some (.sealed forDirectory forFile) → Descends name →
      Leads root place [name] (.vacant place name)

theorem Node.unlinked_file (bytes : ByteArray) (attributes : Attributes) :
    (Node.file bytes attributes).Unlinked := by
  intro place target h
  cases place with
  | nil => simp at h
  | cons name rest => simp [Node.get?_cons, Node.entries] at h

theorem Node.unlinked_dir {entries : List (String × Node)}
    (h : ∀ e ∈ entries, e.2.Unlinked) : (Node.dir entries).Unlinked := by
  intro place target hplace
  cases place with
  | nil => simp at hplace
  | cons name rest =>
    obtain ⟨child, hmem, hbelow⟩ := Node.exists_entry_of_get? hplace
    exact h (name, child) hmem rest target hbelow

/-- Only directories hold nodes. -/
theorem dirAt_of_get? {root : Node} {place : List String} {name : String} {node : Node}
    (h : root.get? (place ++ [name]) = some node) : root.DirAt place := by
  rw [Node.get?_append] at h
  obtain ⟨parent, hparent, hchild⟩ := Option.bind_eq_some_iff.1 h
  cases parent with
  | dir entries => exact ⟨_, hparent, rfl⟩
  | _ => simp [Node.get?_cons, Node.entries] at hchild

theorem descends_of_not {name : String} (hstay : ¬(name = "" ∨ name = ".")) (hup : name ≠ "..") :
    Descends name := by
  rw [not_or] at hstay
  exact ⟨hstay.1, hstay.2, hup⟩

theorem get?_entry {root : Node} {place : List String} {entries : List (String × Node)}
    (h : root.get? place = some (.dir entries)) (name : String) :
    root.get? (place ++ [name]) = entries.lookup name := by
  simp [Node.get?_append, h, Node.get?_cons, Node.entries]

theorem get?_sealed {root : Node} {place : List String} {forDirectory forFile : Fault}
    (h : root.get? place = some (.sealed forDirectory forFile)) (name : String) :
    root.get? (place ++ [name]) = none := by
  simp [Node.get?_append, h, Node.get?_cons, Node.entries]

theorem dirAt_dir {root : Node} {place : List String} {entries : List (String × Node)}
    (h : root.get? place = some (.dir entries)) : root.DirAt place :=
  ⟨_, h, rfl⟩

/-- A walk that comes to its end has only taken steps that `Leads` allows. -/
theorem leads_of_walkFrom {root : Node} {atEnd : AtEnd} {links : Nat} {place steps : List String}
    {spot : Spot} (hroot : root.Unlinked) (h : walkFrom root atEnd links place steps = .ok spot) :
    Leads root place steps spot := by
  induction steps generalizing place with
  | nil =>
    rw [walkFrom] at h
    split at h
    · next node hnode =>
      rw [Except.ok.injEq] at h
      exact h ▸ .arrive hnode
    · simp at h
  | cons name rest ih =>
    rw [walkFrom] at h
    split at h
    · simp at h
    · next entries hdir =>
      by_cases hstay : name = "" ∨ name = "."
      · rw [if_pos hstay] at h
        exact .stay (dirAt_dir hdir) hstay (ih h)
      rw [if_neg hstay] at h
      by_cases hup : name = ".."
      · rw [if_pos hup] at h
        exact hup ▸ .up (dirAt_dir hdir) (ih h)
      rw [if_neg hup] at h
      -- from here on the step goes down, if the directory has such an entry
      have hname : Descends name := descends_of_not hstay hup
      by_cases hwrite : atEnd = .write ∧ rest = [""]
      · simp [hwrite] at h
      rw [if_neg hwrite] at h
      by_cases hlong : Path.maxNameBytes < name.utf8ByteSize
      · simp [hlong] at h
      rw [if_neg hlong] at h
      have hfits : FitsEntry name := Nat.le_of_not_lt hlong
      have hentry := get?_entry hdir name
      cases hlook : entries.lookup name with
      | none =>
        rw [hlook] at h hentry
        by_cases hrest : rest = []
        · subst hrest
          obtain rfl : Spot.vacant place name = spot := by simpa using h
          exact .vacant hdir hname hfits hentry
        · simp [hrest] at h
      | some node =>
        rw [hlook] at h hentry
        cases node with
        | link target => exact absurd hentry (hroot _ target)
        | _ => exact .down (dirAt_dir hdir) hname hfits hentry (ih h)
    · next forDirectory forFile hsealed =>
      by_cases hstay : name = "" ∨ name = "."
      · rw [if_pos hstay] at h
        exact .stay ⟨_, hsealed, rfl⟩ hstay (ih h)
      rw [if_neg hstay] at h
      by_cases hup : name = ".."
      · rw [if_pos hup] at h
        exact hup ▸ .up ⟨_, hsealed, rfl⟩ (ih h)
      rw [if_neg hup] at h
      by_cases hrest : rest = []
      · subst hrest
        obtain rfl : Spot.vacant place name = spot := by simpa using h
        exact .sealedOff hsealed (descends_of_not hstay hup)
      · simp [hrest] at h
    · simp at h

theorem Leads.dirAt {root : Node} {place rest : List String} {name : String} {spot : Spot}
    (h : Leads root place (name :: rest) spot) : root.DirAt place := by
  cases h with
  | stay hdir _ _ => exact hdir
  | up hdir _ => exact hdir
  | down hdir _ _ _ _ => exact hdir
  | vacant hdir _ _ _ => exact dirAt_dir hdir
  | sealedOff hsealed _ => exact ⟨_, hsealed, rfl⟩

/-- A directory is a `dir` or a `sealed`. -/
theorem dirAt_cases {root : Node} {place : List String} (h : root.DirAt place) :
    (∃ entries, root.get? place = some (.dir entries)) ∨
      ∃ forDirectory forFile, root.get? place = some (.sealed forDirectory forFile) := by
  obtain ⟨node, hnode, hdir⟩ := h
  cases node with
  | dir entries => exact .inl ⟨entries, hnode⟩
  | sealed forDirectory forFile => exact .inr ⟨forDirectory, forFile, hnode⟩
  | _ => simp [Node.isDir] at hdir

theorem walkFrom_stay {root : Node} {atEnd : AtEnd} {links : Nat} {place rest : List String}
    {name : String} (hdir : root.DirAt place) (hname : name = "" ∨ name = ".") :
    walkFrom root atEnd links place (name :: rest) = walkFrom root atEnd links place rest := by
  rcases dirAt_cases hdir with ⟨entries, h⟩ | ⟨forDirectory, forFile, h⟩
  · rw [walkFrom, h]
    simp [hname]
  · rw [walkFrom, h]
    simp [hname]

theorem walkFrom_up {root : Node} {atEnd : AtEnd} {links : Nat} {place rest : List String}
    (hdir : root.DirAt place) :
    walkFrom root atEnd links place (".." :: rest) =
      walkFrom root atEnd links place.dropLast rest := by
  rcases dirAt_cases hdir with ⟨entries, h⟩ | ⟨forDirectory, forFile, h⟩
  · rw [walkFrom, h]
    simp
  · rw [walkFrom, h]
    simp

/-- All steps that `Leads` allows are taken, but that a file to be written is not looked for behind
a slash. -/
theorem walkFrom_of_leads {root : Node} {atEnd : AtEnd} {links : Nat} {place steps : List String}
    {spot : Spot} (hroot : root.Unlinked) (hend : atEnd = .write → "" ∉ steps)
    (h : Leads root place steps spot) : walkFrom root atEnd links place steps = .ok spot := by
  induction h with
  | arrive hnode => rw [walkFrom, hnode]
  | stay hdir hname _ ih =>
    rw [walkFrom_stay hdir hname]
    exact ih fun hwrite hmem => hend hwrite (List.mem_cons_of_mem _ hmem)
  | up hdir _ ih =>
    rw [walkFrom_up hdir]
    exact ih fun hwrite hmem => hend hwrite (List.mem_cons_of_mem _ hmem)
  | @down place rest name spot node hdir hname hfits hnode _ ih =>
    have hrest : atEnd = .write → "" ∉ rest :=
      fun hwrite hmem => hend hwrite (List.mem_cons_of_mem _ hmem)
    have hslash : ¬(atEnd = .write ∧ rest = [""]) := by
      rintro ⟨hwrite, rfl⟩
      exact hrest hwrite (List.mem_singleton.2 rfl)
    rcases dirAt_cases hdir with ⟨entries, hplace⟩ | ⟨forDirectory, forFile, hplace⟩
    · have hlook : entries.lookup name = some node := (get?_entry hplace name).symm.trans hnode
      rw [walkFrom, hplace]
      simp only [hname.1, hname.2.1, hname.2.2, hslash, Nat.not_lt.2 hfits, hlook, or_self,
        if_false]
      cases node with
      | link target => exact absurd hnode (hroot _ target)
      | _ => exact ih hrest
    · -- there is nothing to go down to
      rw [get?_sealed hplace] at hnode
      simp at hnode
  | @vacant place name entries hplace hname hfits hnone =>
    have hlook : entries.lookup name = none := (get?_entry hplace name).symm.trans hnone
    rw [walkFrom, hplace]
    simp [hname.1, hname.2.1, hname.2.2, Nat.not_lt.2 hfits, hlook]
  | sealedOff hplace hname =>
    rw [walkFrom, hplace]
    simp [hname.1, hname.2.1, hname.2.2]

/-- On a tree without links, walks succeed just where `Leads` holds. -/
theorem walkFrom_iff {root : Node} {atEnd : AtEnd} {links : Nat} {place steps : List String}
    {spot : Spot} (hroot : root.Unlinked) (hend : atEnd = .write → "" ∉ steps) :
    walkFrom root atEnd links place steps = .ok spot ↔ Leads root place steps spot :=
  ⟨leads_of_walkFrom hroot, walkFrom_of_leads hroot hend⟩

/-! ## Where walks end -/

theorem Leads.place {root : Node} {start steps place : List String} {node : Node}
    (h : Leads root start steps (.node place node)) :
    place = resolve start steps ∧ root.get? place = some node := by
  -- the induction is on the walk, for which its end must be a variable
  generalize hspot : Spot.node place node = spot at h
  induction h with
  | arrive hnode =>
    obtain ⟨rfl, rfl⟩ := Spot.node.inj hspot
    exact ⟨rfl, hnode⟩
  | stay _ hname _ ih =>
    obtain ⟨hplace, hnode⟩ := ih hspot
    exact ⟨by rw [resolve, if_pos hname, hplace], hnode⟩
  | up _ _ ih =>
    obtain ⟨hplace, hnode⟩ := ih hspot
    exact ⟨by simp [resolve, hplace], hnode⟩
  | down _ hname _ _ _ ih =>
    obtain ⟨hplace, hnode⟩ := ih hspot
    exact ⟨by simp [resolve, hname.1, hname.2.1, hname.2.2, hplace], hnode⟩
  | vacant => simp at hspot
  | sealedOff => simp at hspot

theorem Leads.vacancy {root : Node} {start steps place : List String} {name : String}
    (h : Leads root start steps (.vacant place name)) :
    place ++ [name] = resolve start steps ∧ Descends name ∧ root.DirAt place ∧
      root.get? (place ++ [name]) = none := by
  generalize hspot : Spot.vacant place name = spot at h
  induction h with
  | arrive => simp at hspot
  | stay _ hname _ ih =>
    obtain ⟨hplace, hrest⟩ := ih hspot
    exact ⟨by rw [resolve, if_pos hname, hplace], hrest⟩
  | up _ _ ih =>
    obtain ⟨hplace, hrest⟩ := ih hspot
    exact ⟨by simp [resolve, hplace], hrest⟩
  | down _ hname _ _ _ ih =>
    obtain ⟨hplace, hrest⟩ := ih hspot
    exact ⟨by simp [resolve, hname.1, hname.2.1, hname.2.2, hplace], hrest⟩
  | vacant hdir hname _ hnone =>
    obtain ⟨rfl, rfl⟩ := Spot.vacant.inj hspot
    exact ⟨by simp [resolve, hname.1, hname.2.1, hname.2.2], hname, dirAt_dir hdir, hnone⟩
  | sealedOff hsealed hname =>
    obtain ⟨rfl, rfl⟩ := Spot.vacant.inj hspot
    exact ⟨by simp [resolve, hname.1, hname.2.1, hname.2.2], hname, ⟨_, hsealed, rfl⟩,
      get?_sealed hsealed _⟩

/-! ## Walks one after another -/

theorem Leads.append {root : Node} {start mid s t : List String} {node : Node} {spot : Spot}
    (hs : Leads root start s (.node mid node)) (ht : Leads root mid t spot) :
    Leads root start (s ++ t) spot := by
  generalize hmid : Spot.node mid node = stop at hs
  induction hs with
  | arrive hnode =>
    obtain ⟨rfl, rfl⟩ := Spot.node.inj hmid
    exact ht
  | stay hdir hname _ ih => exact .stay hdir hname (ih hmid)
  | up hdir _ ih => exact .up hdir (ih hmid)
  | down hdir hname hfits hnode _ ih => exact .down hdir hname hfits hnode (ih hmid)
  | vacant => simp at hmid
  | sealedOff => simp at hmid

theorem Leads.split {root : Node} {start s t : List String} {spot : Spot} (hne : t ≠ [])
    (h : Leads root start (s ++ t) spot) :
    ∃ mid node, Leads root start s (.node mid node) ∧ Leads root mid t spot := by
  induction s generalizing start with
  | nil =>
    obtain ⟨name, rest, rfl⟩ := List.exists_cons_of_ne_nil hne
    obtain ⟨node, hnode, -⟩ := Leads.dirAt h
    exact ⟨start, node, .arrive hnode, h⟩
  | cons name s ih =>
    rw [List.cons_append] at h
    generalize hsteps : name :: (s ++ t) = steps at h
    cases h with
    | arrive => simp at hsteps
    | stay hdir hname hrest =>
      obtain ⟨rfl, rfl⟩ := List.cons.inj hsteps
      obtain ⟨mid, node, hmid, ht⟩ := ih hrest
      exact ⟨mid, node, .stay hdir hname hmid, ht⟩
    | up hdir hrest =>
      obtain ⟨rfl, rfl⟩ := List.cons.inj hsteps
      obtain ⟨mid, node, hmid, ht⟩ := ih hrest
      exact ⟨mid, node, .up hdir hmid, ht⟩
    | down hdir hname hfits hnode hrest =>
      obtain ⟨rfl, rfl⟩ := List.cons.inj hsteps
      obtain ⟨mid, node, hmid, ht⟩ := ih hrest
      exact ⟨mid, node, .down hdir hname hfits hnode hmid, ht⟩
    | vacant => simp [hne] at hsteps
    | sealedOff => simp [hne] at hsteps

/-! ## Trees that grow -/

/-- Each node of a tree stands in the other one too, perhaps changed, but directories are still
directories. -/
def Node.Within (root root' : Node) : Prop :=
  ∀ place node, root.get? place = some node →
    ∃ node', root'.get? place = some node' ∧ (node.isDir → node'.isDir)

theorem Node.Within.dirAt {root root' : Node} (h : root.Within root') {place : List String}
    (hdir : root.DirAt place) : root'.DirAt place := by
  obtain ⟨node, hnode, hisDir⟩ := hdir
  obtain ⟨node', hnode', himp⟩ := h place node hnode
  exact ⟨node', hnode', himp hisDir⟩

/-- A walk to a node still comes to its place when the tree has grown. -/
theorem Leads.mono {root root' : Node} (hin : root.Within root') {start steps place : List String}
    {node : Node} (h : Leads root start steps (.node place node)) :
    ∃ node', Leads root' start steps (.node place node') := by
  generalize hspot : Spot.node place node = spot at h
  induction h with
  | arrive hnode =>
    obtain ⟨rfl, rfl⟩ := Spot.node.inj hspot
    obtain ⟨node', hnode', -⟩ := hin _ _ hnode
    exact ⟨node', .arrive hnode'⟩
  | stay hdir hname _ ih =>
    obtain ⟨node', h⟩ := ih hspot
    exact ⟨node', .stay (hin.dirAt hdir) hname h⟩
  | up hdir _ ih =>
    obtain ⟨node', h⟩ := ih hspot
    exact ⟨node', .up (hin.dirAt hdir) h⟩
  | down hdir hname hfits hnode _ ih =>
    obtain ⟨node', h⟩ := ih hspot
    obtain ⟨_, hnode', -⟩ := hin _ _ hnode
    exact ⟨node', .down (hin.dirAt hdir) hname hfits hnode' h⟩
  | vacant => simp at hspot
  | sealedOff => simp at hspot

/-! ## Walks down -/

theorem resolve_append (place s t : List String) :
    resolve place (s ++ t) = resolve (resolve place s) t := by
  induction s generalizing place with
  | nil => rfl
  | cons name s ih =>
    rw [List.cons_append, resolve, resolve]
    split
    · exact ih _
    · split
      · exact ih _
      · exact ih _

theorem resolve_down {names : List String} (h : ∀ name ∈ names, Descends name)
    (place : List String) : resolve place names = place ++ names := by
  induction names generalizing place with
  | nil => simp [resolve]
  | cons name names ih =>
    obtain ⟨hempty, hdot, hup⟩ := h name List.mem_cons_self
    rw [resolve, if_neg (by simp [hempty, hdot]), if_neg hup,
      ih fun name hname => h name (List.mem_cons_of_mem _ hname)]
    simp

/-- No step of a walk to a node is too long a name. -/
theorem Leads.fits {root : Node} {start steps place : List String} {node : Node}
    (h : Leads root start steps (.node place node)) {name : String} (hmem : name ∈ steps)
    (hname : Descends name) : FitsEntry name := by
  generalize hspot : Spot.node place node = spot at h
  induction h with
  | arrive => simp at hmem
  | @stay _ _ name' _ _ hstay _ ih =>
    rcases List.mem_cons.1 hmem with rfl | hmem
    · exact absurd hstay (not_or.2 ⟨hname.1, hname.2.1⟩)
    · exact ih hmem hspot
  | up _ _ ih =>
    rcases List.mem_cons.1 hmem with rfl | hmem
    · exact absurd rfl hname.2.2
    · exact ih hmem hspot
  | down _ _ hfits _ _ ih =>
    rcases List.mem_cons.1 hmem with rfl | hmem
    · exact hfits
    · exact ih hmem hspot
  | vacant => simp at hspot
  | sealedOff => simp at hspot

/-- Names lead down to what stands below a place. -/
theorem leads_down {root : Node} {place names : List String} {node : Node}
    (hnames : ∀ name ∈ names, Descends name ∧ FitsEntry name)
    (h : root.get? (place ++ names) = some node) :
    Leads root place names (.node (place ++ names) node) := by
  induction names generalizing place with
  | nil =>
    rw [List.append_nil] at h ⊢
    exact .arrive h
  | cons name names ih =>
    obtain ⟨hname, hfits⟩ := hnames name List.mem_cons_self
    rw [List.append_cons] at h ⊢
    have hrest := ih (fun name hmem => hnames name (List.mem_cons_of_mem _ hmem)) h
    rw [Node.get?_append] at h
    obtain ⟨child, hchild, -⟩ := Option.bind_eq_some_iff.1 h
    exact .down (dirAt_of_get? hchild) hname hfits hchild hrest

/-! ## Paths -/

/-- The place that a path names on a disk without links. -/
def place (d : Disk) (path : String) : List String :=
  resolve (start d.here path) (Path.steps path)

/-- The path can be walked, and a node stands where it leads. -/
def LeadsTo (d : Disk) (path : String) (place : List String) (node : Node) : Prop :=
  refused path = none ∧ Leads d.root (start d.here path) (Path.steps path) (.node place node)

theorem walk_follow_iff {d : Disk} (hroot : d.root.Unlinked) {path : String} {spot : Spot} :
    d.walk path .follow = .ok spot ↔
      refused path = none ∧ Leads d.root (start d.here path) (Path.steps path) spot := by
  unfold walk
  cases hrefused : refused path with
  | some fault => simp
  | none => simp [walkFrom_iff hroot]

theorem node_iff {d : Disk} (hroot : d.root.Unlinked) {path : String} {node : Node} :
    d.node path = .ok node ↔ ∃ place, d.LeadsTo path place node := by
  unfold Disk.node
  constructor
  · intro h
    split at h
    · next place node' hwalk =>
      obtain rfl := Except.ok.inj h
      exact ⟨place, (walk_follow_iff hroot).1 hwalk⟩
    · simp at h
    · simp at h
  · rintro ⟨place, hleads⟩
    rw [(walk_follow_iff hroot).2 hleads]

/-- What is asked of the node to which a path leads. -/
theorem test_node_iff {d : Disk} (hroot : d.root.Unlinked) (test : Node → Bool) {path : String} :
    (match d.node path with
      | .ok node => test node
      | .error _ => false) = true ↔
      ∃ place node, d.LeadsTo path place node ∧ test node = true := by
  constructor
  · intro h
    split at h
    · next node hnode =>
      obtain ⟨place, hleads⟩ := (node_iff hroot).1 hnode
      exact ⟨place, node, hleads, h⟩
    · simp at h
  · rintro ⟨place, node, hleads, htest⟩
    rw [(node_iff hroot).2 ⟨place, hleads⟩]
    exact htest

theorem isDir_iff {d : Disk} (hroot : d.root.Unlinked) {path : String} :
    d.isDir path = true ↔ ∃ place node, d.LeadsTo path place node ∧ node.isDir = true :=
  test_node_iff hroot Node.isDir

theorem isFile_iff {d : Disk} (hroot : d.root.Unlinked) {path : String} :
    d.isFile path = true ↔ ∃ place node, d.LeadsTo path place node ∧ node.isFile = true :=
  test_node_iff hroot Node.isFile

end ContractBindings.Disk
