import ContractBindings.Disk.Access
import ContractBindings.Proofs.Disk.Progress

/-!
# Making directories and writing files

On a disk without links, what the operations of a program do to it, whether they succeed or not.

1. `createDir_ok`: a directory that is made stands where nothing stood.
2. `progress_createDirAll`: directories above a path are made, and those that were made stay.
3. `filePlace_ok`, `writeAt_ok`: a text goes to the place that its path names (`Wrote`).
4. `writeOutput_ok`, `writeOutput_error`, `Accepts.again`: an output is written, is not, or is
   written again.
-/

namespace ContractBindings.Disk

variable {above : List String} {written : List (List String)} {d d' : Disk}

/-! ## Making a directory -/

theorem look_put_leaf {place : List String} {new : Node} (h : Node.Holds d.root place)
    (hold : ∀ node, d.root.get? place = some node → node.entries = []) (hnew : new.entries = [])
    (q : List String) :
    (d.put place new).look q = if q = place then some new.bare else d.look q :=
  Node.bare_set_leaf h hold hnew q

theorem leads_one_vacant {root : Node} {start place : List String} {name name' : String}
    (h : Leads root start [name] (.vacant place name')) :
    place = start ∧ name' = name ∧ Descends name ∧ FitsEntry name ∨
      ∃ forDirectory forFile, root.get? place = some (.sealed forDirectory forFile) := by
  cases h with
  | stay _ _ hrest => cases hrest
  | up _ hrest => cases hrest
  | down _ _ _ _ hrest => cases hrest
  | vacant _ hname hfits _ => exact .inl ⟨rfl, rfl, hname, hfits⟩
  | sealedOff hsealed _ => exact .inr ⟨_, _, hsealed⟩

theorem directoryOf_ok (hroot : d.root.Unlinked) {path : String} {place : List String}
    (h : d.directoryOf path = .ok place) :
    refused path = none ∧ ∃ node, node.isDir ∧
      Leads d.root (start d.here path) (Path.names path).dropLast (.node place node) := by
  unfold directoryOf at h
  split at h
  · simp at h
  · next hrefused =>
    refine ⟨hrefused, ?_⟩
    split at h
    · next place' node hwalk =>
      split at h
      · next hdir =>
        obtain rfl := Except.ok.inj h
        exact ⟨node, hdir, leads_of_walkFrom hroot hwalk⟩
      · simp at h
    · simp at h
    · simp at h

theorem makeNode_ok {place : List String} {name : String} {node : Node}
    (h : d.makeNode place name node = .ok d') :
    d' = d.put (place ++ [name]) node ∧
      ∀ forDirectory forFile, d.root.get? place ≠ some (.sealed forDirectory forFile) := by
  unfold makeNode at h
  split at h
  · simp at h
  · next hseal =>
    refine ⟨(Except.ok.inj h).symm, ?_⟩
    intro forDirectory forFile hsealed
    simp [seal?, hsealed] at hseal

theorem steps_of_getLast? {path name : String} (h : (Path.names path).getLast? = some name) :
    ∃ slash, Path.steps path = (Path.names path).dropLast ++ name :: slash ∧
      ∀ step ∈ slash, step = "" := by
  have hnames : (Path.names path).dropLast ++ [name] = Path.names path :=
    List.dropLast_append_getLast? name h
  refine ⟨if Path.endsInSlash path then [""] else [], ?_, ?_⟩
  · rw [List.append_cons, hnames, Path.steps]
  · intro step hstep
    split at hstep
    · simpa using hstep
    · simp at hstep

theorem leads_idle {root : Node} {place slash : List String} {node : Node}
    (hnode : root.get? place = some node) (hdir : node.isDir) (h : ∀ step ∈ slash, step = "") :
    Leads root place slash (.node place node) := by
  induction slash with
  | nil => exact .arrive hnode
  | cons step slash ih =>
    refine .stay ⟨node, hnode, hdir⟩ (.inl (h step List.mem_cons_self)) (ih ?_)
    exact fun step hmem => h step (List.mem_cons_of_mem _ hmem)

/-- The names of a path lead where the path does. A slash at its end only asks for a directory. -/
theorem LeadsTo.names {path : String} {place : List String} {node : Node}
    (h : d.LeadsTo path place node) :
    Leads d.root (start d.here path) (Path.names path) (.node place node) := by
  have hleads := h.2
  rw [Path.steps] at hleads
  split at hleads
  · obtain ⟨mid, midNode, hmid, hslash⟩ := Leads.split (by simp) hleads
    obtain rfl : place = mid := by simpa [resolve] using hslash.place.1
    obtain rfl := Option.some.inj (hmid.place.2.symm.trans hslash.place.2)
    exact hmid
  · rwa [List.append_nil] at hleads

theorem leadsTo_of_names {path : String} {place : List String} {node : Node}
    (hrefused : refused path = none)
    (h : Leads d.root (start d.here path) (Path.names path) (.node place node))
    (hdir : node.isDir) : d.LeadsTo path place node := by
  refine ⟨hrefused, h.append (leads_idle h.place.2 hdir ?_)⟩
  intro step hstep
  split at hstep
  · simpa using hstep
  · simp at hstep

/-- A directory is made where nothing stood, and its path leads to it. -/
theorem createDir_ok (hroot : d.root.Unlinked) {path : String} (h : d.createDir path = .ok d') :
    ∃ place name entries, d.root.get? place = some (.dir entries) ∧
      d.root.get? (place ++ [name]) = none ∧ d' = d.put (place ++ [name]) (.dir []) ∧
      (d.root.Within d'.root → d'.LeadsTo path (place ++ [name]) (.dir [])) := by
  unfold createDir at h
  split at h
  · simp at h
  · next place hdirectory =>
    obtain ⟨hrefused, node, -, hinit⟩ := directoryOf_ok hroot hdirectory
    split at h
    · simp at h
    · next name hlast =>
      split at h
      · next place' name' hwalk =>
        obtain ⟨rfl, hopen⟩ := makeNode_ok h
        have hvacant := leads_of_walkFrom hroot hwalk
        obtain ⟨rfl, rfl, hname, hfits⟩ | ⟨forDirectory, forFile, hsealed⟩ :=
          leads_one_vacant hvacant
        · obtain ⟨-, -, hdir, hnone⟩ := hvacant.vacancy
          rcases dirAt_cases hdir with ⟨entries, hplace⟩ | ⟨forDirectory, forFile, hsealed⟩
          · refine ⟨place', name', entries, hplace, hnone, rfl, ?_⟩
            intro hin
            obtain ⟨slash, hsteps, hslash⟩ := steps_of_getLast? hlast
            obtain ⟨node', hinit'⟩ := hinit.mono hin
            have hnew : (d.put (place' ++ [name']) (.dir [])).root.get? (place' ++ [name']) =
                some (.dir []) := Node.get?_set_self (Node.holds_append hplace name')
            refine ⟨hrefused, ?_⟩
            rw [hsteps]
            refine hinit'.append (.down (hin.dirAt hdir) hname hfits hnew ?_)
            exact leads_idle hnew rfl hslash
          · exact absurd hsealed (hopen _ _)
        · -- nothing is made in a sealed directory
          exact absurd hsealed (hopen _ _)
      · simp at h
      · simp at h

theorem within_put_new {place : List String} {name : String} {entries : List (String × Node)}
    {new : Node} (hplace : d.root.get? place = some (.dir entries))
    (hnone : d.root.get? (place ++ [name]) = none) (hnew : new.entries = []) :
    d.root.Within (d.put (place ++ [name]) new).root := by
  intro q node hnode
  have hlook := look_put_leaf (Node.holds_append hplace name) (by simp [hnone]) hnew q
  have hne : q ≠ place ++ [name] := by
    rintro rfl
    simp [hnone] at hnode
  rw [if_neg hne, look_of_get? hnode] at hlook
  obtain ⟨node', hnode', hbare⟩ := Option.map_eq_some_iff.1 hlook
  refine ⟨node', hnode', ?_⟩
  rw [← Node.isDir_bare node, ← hbare, Node.isDir_bare]
  exact id

theorem progress_createDir (hroot : d.root.Unlinked) {path : String} (hpath : path ∈ above)
    (h : d.createDir path = .ok d') :
    Progress above [] d d' ∧ ∃ place, d'.LeadsTo path place (.dir []) := by
  obtain ⟨place, name, entries, hplace, hnone, rfl, hleads⟩ := createDir_ok hroot h
  have hholds := Node.holds_append hplace name
  have hleads := hleads (within_put_new hplace hnone rfl)
  refine ⟨⟨rfl, rfl, rfl, ?_, ?_, by simp⟩, _, hleads⟩
  · exact fun hordered => Node.ordered_set _ (Node.ordered_of_leaf rfl) hordered
  · intro q _
    rw [look_put_leaf hholds (by simp [hnone]) rfl]
    by_cases hq : q = place ++ [name]
    · subst hq
      rw [if_pos rfl]
      exact .inr ⟨look_eq_none.2 hnone, rfl, path, hpath, _, hleads⟩
    · rw [if_neg hq]
      exact .inl rfl

/-! ## Making the directories above a path -/

theorem progress_createEach {paths : List String} {result : Except Fault Unit}
    (hroot : d.root.Unlinked) (hpaths : ∀ path ∈ paths, path ∈ above)
    (h : d.createEach paths = (result, d')) :
    Progress above [] d d' ∧ (result = .ok () → ∀ path ∈ paths.head?, d'.isDir path) := by
  induction paths generalizing d d' result with
  | nil =>
    obtain ⟨rfl, rfl⟩ := Prod.mk.inj h
    exact ⟨.refl above d, by simp⟩
  | cons path parents ih =>
    have hpath := hpaths path List.mem_cons_self
    have made {d d' : Disk} (hroot : d.root.Unlinked) (hd : d.createDir path = .ok d') :
        Progress above [] d d' ∧ d'.isDir path := by
      obtain ⟨hprogress, place, hleads⟩ := progress_createDir hroot hpath hd
      exact ⟨hprogress, (isDir_iff (hprogress.unlinked hroot)).2 ⟨place, _, hleads, rfl⟩⟩
    rw [createEach] at h
    -- it is made at once, or after its parents, or cannot be made, or is there already
    split at h
    · next d₁ hd₁ =>
      obtain ⟨rfl, rfl⟩ := Prod.mk.inj h
      obtain ⟨hprogress, hdir⟩ := made hroot hd₁
      exact ⟨hprogress, fun _ => by simpa using hdir⟩
    · split at h
      · next fault d₁ hparents =>
        obtain ⟨rfl, rfl⟩ := Prod.mk.inj h
        have hbefore := ih hroot (fun p hp => hpaths p (List.mem_cons_of_mem _ hp)) hparents
        exact ⟨hbefore.1, by simp⟩
      · next d₁ hparents =>
        have hbefore := (ih hroot (fun p hp => hpaths p (List.mem_cons_of_mem _ hp)) hparents).1
        split at h
        · next d₂ hd₂ =>
          obtain ⟨rfl, rfl⟩ := Prod.mk.inj h
          obtain ⟨hprogress, hdir⟩ := made (hbefore.unlinked hroot) hd₂
          exact ⟨hbefore.trans hprogress, fun _ => by simpa using hdir⟩
        · obtain ⟨rfl, rfl⟩ := Prod.mk.inj h
          refine ⟨hbefore, ?_⟩
          intro hok
          split at hok
          · next hdir => simpa using hdir
          · simp at hok
    · obtain ⟨rfl, rfl⟩ := Prod.mk.inj h
      refine ⟨.refl above d, ?_⟩
      intro hok
      split at hok
      · next hdir => simpa using hdir
      · simp at hok

theorem ancestors_cons {path : String} (h : path ≠ "") :
    ∃ parents, Path.ancestors path = path :: parents := by
  obtain ⟨c, rest, hpath⟩ : ∃ c rest, path.toList = c :: rest :=
    List.exists_cons_of_ne_nil (by simpa using h)
  have hlength : path.length = rest.length + 1 := by
    rw [← String.length_toList, hpath, List.length_cons]
  rw [Path.ancestors, hlength, Path.ancestorsWithin, if_neg (by simpa using h)]
  exact ⟨_, rfl⟩

theorem progress_createDirAll {path : String} {result : Except Fault Unit}
    (hroot : d.root.Unlinked) (habove : ∀ p ∈ Path.ancestors path, p ∈ above)
    (h : d.createDirAll path = (result, d')) :
    Progress above [] d d' ∧ (result = .ok () → path = "" ∨ d'.isDir path) := by
  obtain ⟨hprogress, hdir⟩ := progress_createEach hroot habove h
  refine ⟨hprogress, ?_⟩
  intro hok
  by_cases hempty : path = ""
  · exact .inl hempty
  · obtain ⟨parents, hpaths⟩ := ancestors_cons hempty
    exact .inr (hdir hok path (by simp [hpaths]))

/-! ## Writing a file -/

/-- A node that takes the bytes that are written to it. -/
def Node.Takes (bytes : ByteArray) : Node → Prop
  | .file .. => True
  | .device .terminal => False
  | .device .full => bytes.isEmpty
  | .device _ => True
  | _ => False

theorem Node.Takes.leaf {bytes : ByteArray} {node : Node} (h : node.Takes bytes) :
    node.isDir = false := by
  cases node with
  | dir _ | sealed _ _ => exact h.elim
  | _ => rfl

/-- A path that ends in a name does not end in a slash. -/
def EndsInName (path : String) : Prop :=
  ∃ init name, Path.steps path = init ++ [name] ∧ "" ∉ init ∧ Descends name

theorem EndsInName.no_slash {path : String} (h : EndsInName path) : "" ∉ Path.steps path := by
  obtain ⟨init, name, hsteps, hinit, hname⟩ := h
  rw [hsteps, List.mem_append, List.mem_singleton, not_or]
  exact ⟨hinit, fun hempty => hname.1 hempty.symm⟩

theorem walk_write_iff (hroot : d.root.Unlinked) {path : String} (hname : EndsInName path)
    {spot : Spot} :
    d.walk path .write = .ok spot ↔
      refused path = none ∧ Leads d.root (start d.here path) (Path.steps path) spot := by
  unfold walk
  cases hrefused : refused path with
  | some fault => simp
  | none => simp [walkFrom_iff hroot fun _ => hname.no_slash]

/-- Where a walk ends in a vacant place, it ends in the node that is put there. -/
theorem Leads.fill {root root' : Node} {start steps place : List String} {name : String}
    {entries : List (String × Node)} {node : Node} (hin : root.Within root')
    (hplace : root.get? place = some (.dir entries))
    (hnode : root'.get? (place ++ [name]) = some node)
    (h : Leads root start steps (.vacant place name)) :
    Leads root' start steps (.node (place ++ [name]) node) := by
  generalize hspot : Spot.vacant place name = spot at h
  induction h with
  | arrive => simp at hspot
  | stay hdir hname _ ih => exact .stay (hin.dirAt hdir) hname (ih hspot)
  | up hdir _ ih => exact .up (hin.dirAt hdir) (ih hspot)
  | down hdir hname hfits hold _ ih =>
    obtain ⟨_, hnew, -⟩ := hin _ _ hold
    exact .down (hin.dirAt hdir) hname hfits hnew (ih hspot)
  | vacant hdir hname hfits _ =>
    obtain ⟨rfl, rfl⟩ := Spot.vacant.inj hspot
    exact .down (hin.dirAt (dirAt_dir hdir)) hname hfits hnode (.arrive hnode)
  | sealedOff hsealed =>
    obtain ⟨rfl, rfl⟩ := Spot.vacant.inj hspot
    simp [hplace] at hsealed

/-- A text goes to the place that its path names, where there is a file already or nothing. -/
theorem filePlace_ok (hroot : d.root.Unlinked) {path : String} (hname : EndsInName path)
    {place : List String} (h : d.filePlace path = .ok place) :
    place = d.place path ∧ Node.Holds d.root place ∧
      (∀ node, d.root.get? place = some node → node.isDir = false) ∧
      ∀ {d' : Disk} {node : Node}, d'.here = d.here → d.root.Within d'.root →
        d'.root.get? place = some node → d'.LeadsTo path place node := by
  unfold filePlace at h
  split at h
  · next p node hwalk =>
    obtain ⟨hrefused, hleads⟩ := (walk_write_iff hroot hname).1 hwalk
    obtain ⟨hplace, hnode⟩ := hleads.place
    split at h
    · simp at h
    · next hdir =>
      obtain rfl := Except.ok.inj h
      refine ⟨hplace, Node.holds_of_get? hnode, ?_, ?_⟩
      · intro node' hnode'
        obtain rfl := Option.some.inj (hnode.symm.trans hnode')
        simpa using hdir
      · intro d' node' hhere hin hnode'
        obtain ⟨node'', hleads'⟩ := hleads.mono hin
        obtain rfl := Option.some.inj (hleads'.place.2.symm.trans hnode')
        exact ⟨hrefused, hhere ▸ hleads'⟩
  · next p name hwalk =>
    obtain ⟨hrefused, hleads⟩ := (walk_write_iff hroot hname).1 hwalk
    obtain ⟨hplace, -, hdir, hnone⟩ := hleads.vacancy
    split at h
    · simp at h
    · next hseal =>
      obtain rfl := Except.ok.inj h
      rcases dirAt_cases hdir with ⟨entries, hp⟩ | ⟨forDirectory, forFile, hsealed⟩
      · refine ⟨hplace, Node.holds_append hp name, by simp [hnone], ?_⟩
        intro d' node hhere hin hnode
        exact ⟨hrefused, hhere ▸ hleads.fill hin hp hnode⟩
      · simp [seal?, hsealed] at hseal
  · simp at h

/-- The disk after bytes were written to what stands at a place. -/
structure Wrote (place : List String) (bytes : ByteArray) (d d' : Disk) : Prop where
  here : d'.here = d.here
  clock : d'.clock = d.clock
  lastIdentity : d'.lastIdentity = d.lastIdentity
  ordered : d.root.Ordered → d'.root.Ordered
  touched : ∀ q, d.Touches place q → d'.look q = Node.overwritten d.clock bytes (d.look q)
  elsewhere : ∀ q, ¬d.Touches place q → d'.look q = d.look q

theorem Wrote.progress {place : List String} {bytes : ByteArray} (h : Wrote place bytes d d')
    (hleaf : ∀ node, d.look place = some node → node.isDir = false) :
    Progress above [place] d d' where
  here := h.here
  clock := h.clock
  lastIdentity := h.lastIdentity
  ordered := h.ordered
  elsewhere q hq := .inl (h.elsewhere q (hq place (List.mem_singleton.2 rfl)))
  overwrites p hp q htouch := by
    obtain rfl := List.mem_singleton.1 hp
    rw [h.touched q htouch]
    refine overwrites_overwritten bytes ?_
    rcases htouch with rfl | hsame
    · exact hleaf
    · obtain ⟨_, _, hfile⟩ := hsame.files.2
      intro node hnode
      rw [hfile, Option.some.injEq] at hnode
      exact hnode ▸ rfl

/-- A device, of which only the output that it takes is known. -/
theorem wrote_device {place : List String} {bytes : ByteArray} {device : Device}
    (h : d.look place = some (.device device)) : Wrote place bytes d d where
  here := rfl
  clock := rfl
  lastIdentity := rfl
  ordered := id
  touched q htouch := by
    rcases htouch with rfl | hsame
    · rw [h]
      rfl
    · obtain ⟨_, _, hfile⟩ := hsame.files.1
      simp [h] at hfile
  elsewhere _ _ := rfl

/-- A file with one name, or a new one. -/
theorem wrote_put {place : List String} {bytes : ByteArray} {new : Node}
    (hholds : Node.Holds d.root place)
    (hold : ∀ node, d.root.get? place = some node → node.entries = [])
    (hid : d.identityAt place = 0)
    (hnew : Node.overwritten d.clock bytes (d.look place) = some new) (hbare : new.bare = new)
    (hentries : new.entries = []) : Wrote place bytes d (d.put place new) := by
  have hlook (q : List String) :
      (d.put place new).look q = if q = place then some new else d.look q := by
    rw [look_put_leaf hholds hold hentries, hbare]
  refine ⟨rfl, rfl, rfl, ?_, ?_, ?_⟩
  · exact fun hordered => Node.ordered_set _ (Node.ordered_of_leaf hentries) hordered
  · rintro q (rfl | hsame)
    · rw [hlook, if_pos rfl, hnew]
    · exact absurd hid hsame.1
  · intro q htouch
    rw [hlook, if_neg fun hq => htouch (.inl hq)]

theorem look_rewrite (identity : Nat) (time : Int) (bytes : ByteArray) (q : List String) :
    ({ d with root := d.root.rewrite identity time bytes } : Disk).look q =
      (d.look q).map (Node.rewrite identity time bytes) := by
  simp only [look, Node.get?_rewrite, Option.map_map]
  congr 1
  funext node
  exact Node.bare_rewrite identity time bytes node

/-- A file with several names. -/
theorem wrote_rewrite {place : List String} {bytes old : ByteArray} {attributes : Attributes}
    (hold : d.look place = some (.file old attributes)) (hid : attributes.identity ≠ 0) :
    Wrote place bytes d { d with root := d.root.rewrite attributes.identity d.clock bytes } := by
  have hplace : d.identityAt place = attributes.identity := by rw [identityAt, hold]
  refine ⟨rfl, rfl, rfl, Node.ordered_rewrite, ?_, ?_⟩
  · intro q htouch
    have hq : d.identityAt q = attributes.identity := by
      rcases htouch with rfl | hsame
      · exact hplace
      · exact hsame.2.trans hplace
    obtain ⟨bytes', attributes', hfile⟩ := file_of_identityAt (hq ▸ hid)
    rw [identityAt, hfile] at hq
    rw [look_rewrite, hfile, Option.map_some, Node.rewrite, if_pos hq]
    rfl
  · intro q htouch
    have hq : d.identityAt q ≠ attributes.identity := fun hq =>
      htouch (.inr ⟨hplace ▸ hid, hq.trans hplace.symm⟩)
    rw [look_rewrite]
    cases hlook : d.look q with
    | none => rfl
    | some node =>
      cases node with
      | file bytes' attributes' =>
        rw [identityAt, hlook] at hq
        rw [Option.map_some, Node.rewrite, if_neg hq]
      | dir entries =>
        obtain ⟨node, -, hbare⟩ := Option.map_eq_some_iff.1 hlook
        cases node <;> simp_all [Node.rewrite, Node.rewriteAll]
      | _ => simp [Node.rewrite]

/-- Bytes are written where there is a file or nothing, or taken by a device. -/
theorem writeAt_ok (hroot : d.root.Unlinked) {place : List String} {bytes : ByteArray}
    (hholds : Node.Holds d.root place)
    (hleaf : ∀ node, d.root.get? place = some node → node.isDir = false)
    (h : d.writeAt place bytes = .ok d') :
    Wrote place bytes d d' ∧ ∃ node, d'.root.get? place = some node ∧ node.Takes bytes := by
  unfold writeAt at h
  split at h
  · next old attributes hold =>
    -- a file, which the tree holds once if it has no identity
    have hlook := look_of_get? hold
    split at h
    · next hid =>
      obtain rfl := Except.ok.inj h
      refine ⟨wrote_put hholds ?_ ?_ ?_ rfl rfl, _, Node.get?_set_self hholds, trivial⟩
      · intro node hnode
        obtain rfl := Option.some.inj (hold.symm.trans hnode)
        rfl
      · rw [identityAt, hlook]
        exact hid
      · rw [hlook]
        rfl
    · next hid =>
      obtain rfl := Except.ok.inj h
      refine ⟨wrote_rewrite hlook hid, .file bytes { attributes with time := d.clock }, ?_, trivial⟩
      simp [Node.get?_rewrite, hold, Node.rewrite]
  · simp at h
  · next hdevice =>
    split at h
    · next hempty =>
      obtain rfl := Except.ok.inj h
      exact ⟨wrote_device (look_of_get? hdevice), _, hdevice, hempty⟩
    · simp at h
  · next device hterminal hfull hdevice =>
    obtain rfl := Except.ok.inj h
    refine ⟨wrote_device (look_of_get? hdevice), _, hdevice, ?_⟩
    cases device <;> simp_all [Node.Takes]
  · next hfile hterminal hfull hdevice =>
    obtain rfl := Except.ok.inj h
    -- links and directories are ruled out, so nothing stands there
    have hnone : d.root.get? place = none := by
      cases hget : d.root.get? place with
      | none => rfl
      | some node =>
        have hleaf := hleaf node hget
        cases node with
        | link target => exact absurd hget (hroot place target)
        | _ => simp_all [Node.isDir]
    have hlook := look_eq_none.2 hnone
    refine ⟨wrote_put hholds (by simp [hnone]) ?_ ?_ rfl rfl, _, Node.get?_set_self hholds, trivial⟩
    · rw [identityAt, hlook]
    · rw [hlook]
      rfl

/-- A node that takes bytes can be written to. -/
theorem writeAt_takes {place : List String} {bytes : ByteArray} {node : Node}
    (hnode : d.root.get? place = some node) (htakes : node.Takes bytes) :
    ∃ d', d.writeAt place bytes = .ok d' := by
  unfold writeAt
  rw [hnode]
  cases node with
  | file old attributes =>
    simp only
    split <;> exact ⟨_, rfl⟩
  | device device =>
    cases device with
    | terminal => exact htakes.elim
    | full => exact ⟨d, if_pos htakes⟩
    | _ => exact ⟨d, rfl⟩
  | _ => exact htakes.elim

/-- A text is written to the place that its path names. -/
theorem writeText_ok (hroot : d.root.Unlinked) {path text : String} (hname : EndsInName path)
    (h : d.writeText path text = .ok d') :
    Wrote (d.place path) (Text.toBytes text) d d' ∧
      (∀ above, Progress above [d.place path] d d') ∧
      ∃ node, d'.LeadsTo path (d.place path) node ∧ node.Takes (Text.toBytes text) := by
  unfold writeText writeBytes at h
  cases hplace : d.filePlace path with
  | error fault =>
    rw [hplace] at h
    simp [Except.bind] at h
  | ok place =>
    rw [hplace] at h
    obtain ⟨rfl, hholds, hleaf, hleads⟩ := filePlace_ok hroot hname hplace
    obtain ⟨hwrote, node, hnode, htakes⟩ := writeAt_ok hroot hholds hleaf h
    have hprogress (above : List String) : Progress above [d.place path] d d' := by
      refine hwrote.progress fun node hnode => ?_
      obtain ⟨node, hget, rfl⟩ := Option.map_eq_some_iff.1 hnode
      rw [Node.isDir_bare]
      exact hleaf node hget
    exact ⟨hwrote, hprogress, node, hleads hwrote.here (hprogress []).within hnode, htakes⟩

/-- A text can be written to a path that leads to a node that takes it. -/
theorem writeText_takes (hroot : d.root.Unlinked) {path text : String} {place : List String}
    {node : Node} (hname : EndsInName path) (hleads : d.LeadsTo path place node)
    (htakes : node.Takes (Text.toBytes text)) : ∃ d', d.writeText path text = .ok d' := by
  have hplace : d.filePlace path = .ok place := by
    rw [filePlace, (walk_write_iff hroot hname).2 hleads]
    simp [htakes.leaf]
  rw [writeText, writeBytes, hplace]
  exact writeAt_takes hleads.2.place.2 htakes

/-! ## Making a directory that is there -/

/-- What a longer walk passes on its way. -/
theorem Leads.first {root : Node} {start place : List String} {name : String} {rest : List String}
    {node : Node} (h : Leads root start (name :: rest) (.node place node)) :
    ∃ mid node', Leads root start [name] (.node mid node') := by
  by_cases hrest : rest = []
  · subst hrest
    exact ⟨place, node, h⟩
  · obtain ⟨mid, node', hmid, -⟩ := Leads.split (s := [name]) hrest h
    exact ⟨mid, node', hmid⟩

theorem directoryOf_of_leads (hroot : d.root.Unlinked) {path : String} {place : List String}
    (hrefused : refused path = none) {node : Node}
    (h : Leads d.root (start d.here path) (Path.names path).dropLast (.node place node))
    (hdir : node.isDir) : d.directoryOf path = .ok place := by
  unfold directoryOf
  rw [hrefused, walkFrom_of_leads hroot (by simp) h]
  simp [hdir]

/-- A directory cannot be made where one is. -/
theorem createDir_again (hroot : d.root.Unlinked) {path : String} (h : d.isDir path) :
    d.createDir path = .error .alreadyExists := by
  obtain ⟨place, node, ⟨hrefused, hleads⟩, hdir⟩ := (isDir_iff hroot).1 h
  cases hlast : (Path.names path).getLast? with
  | none =>
    -- a path without names leads to where it starts
    have hnames : Path.names path = [] := List.getLast?_eq_none_iff.1 hlast
    obtain ⟨here, hhere, hhereDir⟩ : d.root.DirAt (start d.here path) := by
      rw [Path.steps, hnames, List.nil_append] at hleads
      split at hleads
      · exact hleads.dirAt
      · obtain ⟨hplace, hnode⟩ := hleads.place
        rw [hplace] at hnode
        exact ⟨node, hnode, hdir⟩
    have hinit : Leads d.root (start d.here path) (Path.names path).dropLast
        (.node (start d.here path) here) := by
      rw [hnames]
      exact .arrive hhere
    rw [createDir, directoryOf_of_leads hroot hrefused hinit hhereDir]
    simp [hlast]
  | some name =>
    obtain ⟨slash, hsteps, -⟩ := steps_of_getLast? hlast
    rw [hsteps] at hleads
    obtain ⟨mid, midNode, hinit, hrest⟩ := Leads.split (by simp) hleads
    obtain ⟨_, hmid, hmidDir⟩ := hrest.dirAt
    obtain rfl := Option.some.inj (hinit.place.2.symm.trans hmid)
    obtain ⟨place', node', hname⟩ := hrest.first
    have hwalk : walkFrom d.root .stay maxLinks mid [name] = .ok (.node place' node') :=
      walkFrom_of_leads hroot (by simp) hname
    rw [createDir, directoryOf_of_leads hroot hrefused hinit hmidDir]
    simp [hlast, hwalk]

theorem createDirAll_again (hroot : d.root.Unlinked) {path : String}
    (h : path = "" ∨ d.isDir path) : d.createDirAll path = (.ok (), d) := by
  by_cases hempty : path = ""
  · rw [hempty]
    rfl
  · have h : d.isDir path := h.resolve_left hempty
    obtain ⟨parents, hpaths⟩ := ancestors_cons hempty
    rw [createDirAll, hpaths, createEach, createDir_again hroot h]
    simp [h]

/-! ## Writing an output -/

/-- A text can be written to a path, above which nothing is missing. -/
structure Accepts (d : Disk) (path text : String) : Prop where
  file : ∃ node, d.LeadsTo path (d.place path) node ∧ node.Takes (Text.toBytes text)
  parent : ∀ parent, Path.parent? path = some parent → parent = "" ∨ d.isDir parent

/-- A text was written to a path, and stands there still if it stands in a file. -/
structure Stands (d : Disk) (path text : String) : Prop extends Accepts d path text where
  holds : ∀ bytes attributes, d.look (d.place path) = some (.file bytes attributes) →
    bytes = Text.toBytes text

/-- The paths above a path, which are made directories before a text is written to it. -/
def pathsAbove (path : String) : List String :=
  match Path.parent? path with
  | some parent => Path.ancestors parent
  | none => []

/-- The directories above a path, with those that were missing made. -/
def makeParent (d : Disk) (path : String) : Except Fault Unit × Disk :=
  match Path.parent? path with
  | some parent => d.createDirAll parent
  | none => (.ok (), d)

theorem progress_makeParent {path : String} {result : Except Fault Unit} (hroot : d.root.Unlinked)
    (habove : pathsAbove path ⊆ above)
    (h : d.makeParent path = (result, d')) :
    Progress above [] d d' ∧ (result = .ok () →
      ∀ parent, Path.parent? path = some parent → parent = "" ∨ d'.isDir parent) := by
  unfold makeParent at h
  cases hparent : Path.parent? path with
  | none =>
    rw [hparent] at h
    obtain ⟨rfl, rfl⟩ := Prod.mk.inj h
    exact ⟨.refl above d, by simp⟩
  | some parent =>
    rw [hparent] at h
    rw [pathsAbove, hparent] at habove
    simpa using progress_createDirAll hroot (fun p hp => habove hp) h

theorem writeOutput_eq (d : Disk) (path text : String) :
    d.writeOutput path text =
      match d.makeParent path with
      | (.error fault, d) => (.error fault, d)
      | (.ok (), d) =>
        match d.writeText path text with
        | .ok d => (.ok (), d)
        | .error fault => (.error fault, d) := by
  rw [writeOutput, makeParent]
  cases Path.parent? path with
  | none => rfl
  | some parent =>
    cases hmade : d.createDirAll parent with
    | mk made d₁ =>
      cases made with
      | error fault => simp only [hmade]
      | ok _ =>
        cases hwritten : d₁.writeText path text with
        | error fault => simp only [hmade, hwritten]
        | ok d₂ => simp only [hmade, hwritten]

theorem bytes_of_overwritten {clock : Nat} {bytes bytes' : ByteArray} {attributes : Attributes}
    {before : Option Node}
    (h : Node.overwritten clock bytes before = some (.file bytes' attributes)) :
    bytes' = bytes := by
  cases before with
  | none => exact (Node.file.inj (Option.some.inj h)).1.symm
  | some node =>
    cases node with
    | file _ _ => exact (Node.file.inj (Option.some.inj h)).1.symm
    | _ => simp [Node.overwritten] at h

/-- An output that is written stands where its path leads, and so do its bytes under the other names
that it has. -/
theorem writeOutput_ok (hroot : d.root.Unlinked) {path text : String} (hname : EndsInName path)
    (habove : pathsAbove path ⊆ above) (h : d.writeOutput path text = (.ok (), d')) :
    Progress above [d.place path] d d' ∧ d'.Stands path text ∧
      ∀ q, d.Touches (d.place path) q →
        d'.look q = Node.overwritten d.clock (Text.toBytes text) (d.look q) := by
  rw [writeOutput_eq] at h
  split at h
  · simp at h
  · next d₁ hmade =>
    split at h
    · next d₂ hwritten =>
      obtain rfl := (Prod.mk.inj h).2
      obtain ⟨hmaking, hparent⟩ := progress_makeParent hroot habove hmade
      have hroot₁ := hmaking.unlinked hroot
      obtain ⟨hwrote, hwriting, node, hleads, htakes⟩ :=
        writeText_ok hroot₁ hname hwritten
      have hwriting := hwriting above
      rw [hmaking.place] at hwrote hwriting hleads
      have hprogress := hmaking.trans hwriting
      have hlook (q : List String) (htouch : d.Touches (d.place path) q) :
          d₂.look q = Node.overwritten d.clock (Text.toBytes text) (d.look q) := by
        rw [hwrote.touched q ((hmaking.touches _ _).2 htouch), hmaking.clock]
        rcases hmaking.elsewhere q (by simp) with hsame | ⟨hnone, hdir, -⟩
        · rw [hsame]
        · -- no file is written where a directory was made
          rcases htouch with rfl | hsame
          · have hafter := hwrote.touched _ (Touches.refl d₁ _)
            rw [hdir, look_of_get? hleads.2.place.2] at hafter
            have hleaf := htakes.leaf
            rw [← Node.isDir_bare, Option.some.inj hafter] at hleaf
            simp [Node.isDir] at hleaf
          · obtain ⟨_, _, hfile⟩ := hsame.files.2
            simp [hnone] at hfile
      refine ⟨hprogress, ⟨⟨⟨node, ?_, htakes⟩, ?_⟩, ?_⟩, hlook⟩
      · rwa [hprogress.place]
      · intro parent hsome
        exact (hparent rfl parent hsome).imp_right (hwriting.isDir hroot₁)
      · intro bytes attributes hfile
        rw [hprogress.place, hlook _ (Touches.refl d _)] at hfile
        exact bytes_of_overwritten hfile
    · simp at h

/-- An output that cannot be written leaves at most directories. -/
theorem writeOutput_error (hroot : d.root.Unlinked) {path text : String} {fault : Fault}
    (habove : pathsAbove path ⊆ above)
    (h : d.writeOutput path text = (.error fault, d')) : Progress above [] d d' := by
  rw [writeOutput_eq] at h
  split at h
  · next hmade =>
    obtain rfl := (Prod.mk.inj h).2
    exact (progress_makeParent hroot habove hmade).1
  · next d₁ hmade =>
    split at h
    · simp at h
    · obtain rfl := (Prod.mk.inj h).2
      exact (progress_makeParent hroot habove hmade).1

/-- An output can be written again, and nothing but its bytes changes. -/
theorem Accepts.again (hroot : d.root.Unlinked) {path text : String} (hname : EndsInName path)
    (h : d.Accepts path text) :
    ∃ d', d.writeOutput path text = (.ok (), d') ∧
      Wrote (d.place path) (Text.toBytes text) d d' ∧ Progress above [d.place path] d d' := by
  have hmade : d.makeParent path = (.ok (), d) := by
    unfold makeParent
    cases hparent : Path.parent? path with
    | none => rfl
    | some parent => exact createDirAll_again hroot (h.parent parent hparent)
  -- no directory is made, so all that happens is the writing
  obtain ⟨node, hleads, htakes⟩ := h.file
  obtain ⟨d', hwritten⟩ := writeText_takes hroot hname hleads htakes
  obtain ⟨hwrote, hprogress, -⟩ := writeText_ok hroot hname hwritten
  refine ⟨d', ?_, hwrote, hprogress above⟩
  rw [writeOutput_eq, hmade]
  simp only [hwritten]

theorem Progress.takes (h : Progress above written d d') {q : List String} {node : Node}
    {bytes : ByteArray} (hnode : d.root.get? q = some node) (htakes : node.Takes bytes) :
    ∃ node', d'.root.get? q = some node' ∧ node'.Takes bytes := by
  have hlook := look_of_get? hnode
  have hbare : node.bare = node := by
    cases node with
    | dir _ => exact htakes.elim
    | _ => rfl
  have hleaf : node ≠ .dir [] := by
    rintro rfl
    exact htakes.elim
  rw [hbare] at hlook
  rcases h.cases q with hsame | ⟨hnone, -⟩ | hover
  · exact ⟨node, get?_of_look (hsame.trans hlook) hleaf, htakes⟩
  · simp [hnone] at hlook
  · rw [hlook] at hover
    generalize hafter : d'.look q = after at hover
    cases hover with
    | file old bytes' attributes => exact ⟨_, get?_of_look hafter (by simp), trivial⟩
    | same leaf _ => exact ⟨node, get?_of_look hafter hleaf, htakes⟩

/-- An output can still be written after progress. -/
theorem Accepts.kept (hroot : d.root.Unlinked) {path text : String} (h : d.Accepts path text)
    (hprogress : Progress above written d d') : d'.Accepts path text := by
  obtain ⟨node, hleads, htakes⟩ := h.file
  obtain ⟨node', hleads'⟩ := hprogress.leadsTo hleads
  obtain ⟨node'', hnode'', htakes'⟩ := hprogress.takes hleads.2.place.2 htakes
  obtain rfl := Option.some.inj (hleads'.2.place.2.symm.trans hnode'')
  refine ⟨⟨node', ?_, htakes'⟩, ?_⟩
  · rwa [hprogress.place]
  · intro parent hparent
    exact (h.parent parent hparent).imp_right (hprogress.isDir hroot)

/-- An output stands there still after progress elsewhere. -/
theorem Stands.kept (hroot : d.root.Unlinked) {path text : String} (h : d.Stands path text)
    (hprogress : Progress above written d d')
    (helse : ∀ p ∈ written, ¬d.Touches p (d.place path)) : d'.Stands path text := by
  refine ⟨h.toAccepts.kept hroot hprogress, ?_⟩
  intro bytes attributes hfile
  rw [hprogress.place] at hfile
  rcases hprogress.elsewhere _ helse with hsame | ⟨-, hdir, -⟩
  · exact h.holds bytes attributes (hsame.symm.trans hfile)
  · simp [hdir] at hfile

end ContractBindings.Disk
