import ContractBindings.Proofs.Disk.Relisted

/-!
# Walks that follow links

A walk takes one step after another: it stays, goes up, goes down to an entry, or takes the steps of
a link in place of its name. `Goes` says what one step can do, and `Follows` what several do, on
trees of any kind.

1. `Goes.walkFrom`, `goes_of_walkFrom`: a walk goes on from where its first step leads.
2. `Follows.walkFrom`, `follows_of_walkFrom`: a walk along several steps is one walk after another.
3. `walkFrom_down`, `get?_of_walkFrom_down`: names that go down lead to what stands below a place,
   where nothing on the way is a link.
4. `follows_of_node`, `node_of_follows`: the names of a path to a directory lead to the directory.
-/

namespace ContractBindings.Disk

/-- `Goes root links place name left place' more`: the step can be taken from the place. It leads to
`place'`, with more steps to take where it is a link, and `left` counts the links that may still be
followed. -/
inductive Goes (root : Node) :
    Nat → List String → String → Nat → List String → List String → Prop
  | stay {links : Nat} {place : List String} {name : String} :
      root.DirAt place → name = "" ∨ name = "." → Goes root links place name links place []
  | up {links : Nat} {place : List String} :
      root.DirAt place → Goes root links place ".." links place.dropLast []
  | down {links : Nat} {place : List String} {name : String} {node : Node} :
      Descends name → FitsEntry name → root.get? (place ++ [name]) = some node →
      (∀ target, node ≠ .link target) → Goes root links place name links (place ++ [name]) []
  | link {links : Nat} {place : List String} {name target : String} :
      Descends name → FitsEntry name → root.get? (place ++ [name]) = some (.link target) →
      Goes root (links + 1) place name links (start place target) (Path.steps target)

/-- `Follows root links place steps left mid`: the steps can be taken from the place, and end at
`mid`. -/
inductive Follows (root : Node) :
    Nat → List String → List String → Nat → List String → Prop
  | arrive {links : Nat} {place : List String} {node : Node} :
      root.get? place = some node → Follows root links place [] links place
  | step {links links' left : Nat} {place place' mid more rest : List String} {name : String} :
      Goes root links place name links' place' more →
      Follows root links' place' (more ++ rest) left mid →
      Follows root links place (name :: rest) left mid

/-! ## One step -/

variable {root : Node} {links left : Nat} {place mid : List String}

/-- A directory that holds a node has it as an entry. -/
theorem lookup_of_get? {name : String} {node : Node} (h : root.get? (place ++ [name]) = some node) :
    ∃ entries, root.get? place = some (.dir entries) ∧ entries.lookup name = some node := by
  rcases dirAt_cases (dirAt_of_get? h) with ⟨entries, hdir⟩ | ⟨forDirectory, forFile, hsealed⟩
  · exact ⟨entries, hdir, (get?_entry hdir name).symm.trans h⟩
  · simp [get?_sealed hsealed] at h

theorem Goes.fewer {name : String} {place' more : List String}
    (h : Goes root links place name left place' more) :
    left < links ∨ left = links ∧ more = [] := by
  cases h with
  | link _ _ _ => exact .inl (Nat.lt_succ_self _)
  | _ => exact .inr ⟨rfl, rfl⟩

theorem Goes.walkFrom {name : String} {place' more : List String}
    (h : Goes root links place name left place' more) (rest : List String) :
    walkFrom root .follow links place (name :: rest) =
      walkFrom root .follow left place' (more ++ rest) := by
  cases h with
  | stay hdir hname => exact walkFrom_stay hdir hname
  | up hdir => exact walkFrom_up hdir
  | @down _ _ _ node hname hfits hnode hlink =>
    obtain ⟨entries, hdir, hentry⟩ := lookup_of_get? hnode
    rw [Disk.walkFrom, hdir]
    simp only [hname.1, hname.2.1, hname.2.2, Nat.not_lt.2 hfits, hentry, or_self, if_false,
      reduceCtorEq, false_and]
    cases node with
    | link target => exact absurd rfl (hlink target)
    | _ => rfl
  | link hname hfits hnode =>
    obtain ⟨entries, hdir, hentry⟩ := lookup_of_get? hnode
    rw [Disk.walkFrom, hdir]
    simp [hname.1, hname.2.1, hname.2.2, Nat.not_lt.2 hfits, hentry]

/-- A walk that goes on takes its first step, unless that is its last and leads to no node. -/
theorem goes_of_walkFrom {name : String} {rest : List String} {spot : Spot}
    (h : walkFrom root .follow links place (name :: rest) = .ok spot) :
    (∃ left place' more, Goes root links place name left place' more) ∨
      rest = [] ∧ spot = .vacant place name := by
  rw [walkFrom] at h
  split at h
  · simp at h
  · next entries hdir =>
    by_cases hstay : name = "" ∨ name = "."
    · exact .inl ⟨_, _, _, .stay (dirAt_dir hdir) hstay⟩
    by_cases hup : name = ".."
    · exact .inl (hup ▸ ⟨_, _, _, .up (dirAt_dir hdir)⟩)
    have hname : Descends name := descends_of_not hstay hup
    by_cases hlong : Path.maxNameBytes < name.utf8ByteSize
    · simp [hstay, hup, hlong] at h
    have hfits : FitsEntry name := Nat.le_of_not_lt hlong
    simp only [if_neg hstay, if_neg hup, if_neg hlong, reduceCtorEq, false_and, and_false,
      if_false] at h
    have hentry := get?_entry hdir name
    cases hlook : entries.lookup name with
    | none =>
      rw [hlook] at h
      by_cases hrest : rest = []
      · exact .inr ⟨hrest, by simpa [hrest] using h.symm⟩
      · simp [hrest] at h
    | some node =>
      rw [hlook] at h hentry
      left
      cases node with
      | link target =>
        cases links with
        | zero => simp at h
        | succ links => exact ⟨_, _, _, .link hname hfits hentry⟩
      | _ => exact ⟨_, _, _, .down hname hfits hentry (by simp)⟩
  · next hsealed =>
    by_cases hstay : name = "" ∨ name = "."
    · exact .inl ⟨_, _, _, .stay ⟨_, hsealed, rfl⟩ hstay⟩
    by_cases hup : name = ".."
    · exact .inl (hup ▸ ⟨_, _, _, .up ⟨_, hsealed, rfl⟩⟩)
    simp only [if_neg hstay, if_neg hup] at h
    by_cases hrest : rest = []
    · exact .inr ⟨hrest, by simpa [hrest] using h.symm⟩
    · simp [hrest] at h
  · simp at h

/-! ## Several steps -/

/-- Steps after others go on from where those end. -/
theorem Follows.walkFrom {s : List String} (h : Follows root links place s left mid)
    (t : List String) :
    walkFrom root .follow links place (s ++ t) = walkFrom root .follow left mid t := by
  induction h with
  | arrive => rfl
  | step hgoes _ ih => rw [List.cons_append, hgoes.walkFrom, ← List.append_assoc, ih]

/-- Only from a directory is there a step. -/
theorem dirAt_of_walkFrom {name : String} {rest : List String} {spot : Spot}
    (h : walkFrom root .follow links place (name :: rest) = .ok spot) : root.DirAt place := by
  rw [walkFrom] at h
  split at h
  · simp at h
  · next hdir => exact dirAt_dir hdir
  · next hsealed => exact ⟨_, hsealed, rfl⟩
  · simp at h

theorem exists_of_walkFrom {steps : List String} {spot : Spot}
    (h : walkFrom root .follow links place steps = .ok spot) :
    ∃ node, root.get? place = some node := by
  cases steps with
  | nil =>
    rw [walkFrom] at h
    split at h
    · next hnode => exact ⟨_, hnode⟩
    · simp at h
  | cons name rest =>
    obtain ⟨node, hnode, -⟩ := dirAt_of_walkFrom h
    exact ⟨node, hnode⟩

/-- A walk that comes to a node, or goes on after some steps, has taken those steps. -/
theorem follows_of_walkFrom {s t : List String} {spot : Spot}
    (hend : t ≠ [] ∨ ∃ p n, spot = .node p n)
    (h : walkFrom root .follow links place (s ++ t) = .ok spot) :
    ∃ left mid, Follows root links place s left mid ∧
      walkFrom root .follow left mid t = .ok spot := by
  -- a step leaves fewer links, or as many and fewer steps
  induction links using Nat.strongRecOn generalizing place s with
  | ind links ihLinks =>
    induction s generalizing place with
    | nil =>
      obtain ⟨node, hnode⟩ := exists_of_walkFrom h
      exact ⟨links, place, .arrive hnode, h⟩
    | cons name rest ih =>
      rcases goes_of_walkFrom h with ⟨links', place', more, hgoes⟩ | ⟨hrest, rfl⟩
      · rw [List.cons_append, hgoes.walkFrom, ← List.append_assoc] at h
        obtain ⟨left, mid, hfollows, hrest⟩ :
            ∃ left mid, Follows root links' place' (more ++ rest) left mid ∧
              walkFrom root .follow left mid t = .ok spot := by
          rcases hgoes.fewer with hless | ⟨rfl, rfl⟩
          · exact ihLinks links' hless h
          · exact ih h
        exact ⟨left, mid, .step hgoes hfollows, hrest⟩
      · simp_all

/-! ## Steps down -/

/-- Real names lead down to what stands below a place, unless that is a link. -/
theorem walkFrom_down {names : List String} {node : Node}
    (hnames : ∀ name ∈ names, Descends name ∧ FitsEntry name)
    (hnode : root.get? (place ++ names) = some node) (hlink : ∀ target, node ≠ .link target) :
    walkFrom root .follow links place names = .ok (.node (place ++ names) node) := by
  induction names generalizing place with
  | nil =>
    rw [List.append_nil] at hnode ⊢
    rw [walkFrom, hnode]
  | cons name names ih =>
    obtain ⟨hname, hfits⟩ := hnames name List.mem_cons_self
    rw [List.append_cons] at hnode ⊢
    have hrest := ih (fun name hmem => hnames name (List.mem_cons_of_mem _ hmem)) hnode
    rw [Node.get?_append] at hnode
    obtain ⟨child, hchild, hbelow⟩ := Option.bind_eq_some_iff.1 hnode
    have hchildLink (target : String) : child ≠ .link target := by
      rintro rfl
      cases names with
      | nil => exact hlink target (Option.some.inj hbelow).symm
      | cons _ _ => simp [Node.get?_cons, Node.entries] at hbelow
    rw [(Goes.down hname hfits hchild hchildLink).walkFrom]
    exact hrest

/-- Where nothing is a link, names that go down lead to what stands below a place. -/
theorem get?_of_walkFrom_down {names p : List String} {top node : Node}
    (htop : root.get? place = some top) (hunlinked : top.Unlinked)
    (hnames : ∀ name ∈ names, Descends name)
    (h : walkFrom root .follow links place names = .ok (.node p node)) :
    top.get? names = some node := by
  induction names generalizing place top with
  | nil =>
    rw [walkFrom, htop] at h
    obtain ⟨-, rfl⟩ := Spot.node.inj (Except.ok.inj h)
    exact Node.get?_nil _
  | cons name names ih =>
    have hname := hnames name List.mem_cons_self
    rcases goes_of_walkFrom h with ⟨left, place', more, hgoes⟩ | ⟨-, hvacant⟩
    · have hchild {child : Node} (hget : root.get? (place ++ [name]) = some child) :
          top.get? [name] = some child := by
        rw [Node.get?_append, htop] at hget
        exact hget
      rw [hgoes.walkFrom] at h
      cases hgoes with
      | stay _ hstay => exact absurd hstay (not_or.2 ⟨hname.1, hname.2.1⟩)
      | up _ => exact absurd rfl hname.2.2
      | @down _ _ _ child _ _ hget _ =>
        have htop' := hchild hget
        have hbelow : child.Unlinked := by
          intro q target hq
          refine hunlinked (name :: q) target ?_
          rw [← List.singleton_append, Node.get?_append, htop']
          exact hq
        rw [← List.singleton_append, Node.get?_append, htop']
        exact ih hget hbelow (fun name hmem => hnames name (List.mem_cons_of_mem _ hmem)) h
      | link _ _ hget => exact absurd (hchild hget) (hunlinked [name] _)
    · simp at hvacant

/-! ## Paths to directories -/

/-- The names of a path lead where the path leads. -/
theorem follows_of_node {d : Disk} {path : String} {top : Node} (h : d.node path = .ok top) :
    refused path = none ∧ ∃ left place,
      Follows d.root maxLinks (start d.here path) (Path.names path) left place ∧
        d.root.get? place = some top := by
  unfold Disk.node walk at h
  cases hrefused : refused path with
  | some fault => simp [hrefused] at h
  | none =>
    rw [hrefused] at h
    simp only at h
    split at h
    · next p top' hwalk =>
      obtain rfl := Except.ok.inj h
      obtain ⟨left, mid, hfollows, hend⟩ := follows_of_walkFrom (.inr ⟨p, top', rfl⟩) hwalk
      refine ⟨rfl, left, mid, hfollows, ?_⟩
      -- a slash at the end leads nowhere else
      have hhere : walkFrom d.root .follow left mid [] = .ok (.node p top') := by
        split at hend
        · rw [walkFrom_stay (dirAt_of_walkFrom hend) (.inl rfl)] at hend
          exact hend
        · exact hend
      obtain ⟨node, hnode⟩ := exists_of_walkFrom hhere
      rw [walkFrom, hnode] at hhere
      rw [hnode, (Spot.node.inj (Except.ok.inj hhere)).2]
    · simp at h
    · simp at h

/-- A path leads to a directory if its names do. -/
theorem node_of_follows {d : Disk} {path : String} {top : Node} (hread : refused path = none)
    (h : Follows d.root maxLinks (start d.here path) (Path.names path) left place)
    (htop : d.root.get? place = some top) (hdir : top.isDir = true) : d.node path = .ok top := by
  have hend : walkFrom d.root .follow left place (if Path.endsInSlash path then [""] else []) =
      .ok (.node place top) := by
    have hhere : walkFrom d.root .follow left place [] = .ok (.node place top) := by
      rw [walkFrom, htop]
    split
    · rw [walkFrom_stay ⟨top, htop, hdir⟩ (.inl rfl), hhere]
    · exact hhere
  rw [Disk.node, walk, hread]
  simp only [Path.steps, h.walkFrom, hend]

end ContractBindings.Disk
