import ContractBindings.Proofs.Disk.Outputs
import ContractBindings.Proofs.Disk.Path
import ContractBindings.Proofs.Store.Search
import ContractBindings.Store.Basic
import Mathlib.Data.List.Find

/-!
# Finding an artifact again

Progress that writes no file under the name of an artifact leaves what a store finds.

1. `conventional_eq`, `conventional_cases`: the conventional places, and the names that lead to
   them.
2. `isFile_again`: a place where the artifact could be holds a file after progress if it did before.
3. `locate_again`: the artifact is found where it was found before, or not found again.
4. `load_again`, `load_same`: it is read as before, if nothing was written to it under another name.
-/

namespace ContractBindings.Store

open Disk (Progress)

variable {above : List String} {written : List (List String)} {d d' : Disk} {s : Store}
  {contract : String}

/-! ## Names of artifacts -/

theorem isName_fileName (hcontract : '/' ∉ contract.toList) :
    Disk.Path.IsName (fileName contract) :=
  Disk.Path.isName_append hcontract ⟨by decide, by decide⟩

theorem descends_fileName (contract : String) : Disk.Descends (fileName contract) :=
  Disk.descends_append contract (by decide)

/-- The file of an artifact, in directories below the one of the store. -/
def fileBelow (s : Store) (contract : String) (below : List String) : String :=
  Disk.Path.join (below.foldl Disk.Path.join s.root) (fileName contract)

/-- Directories that can be below another one. -/
def Nested (below : List String) : Prop :=
  ∀ name ∈ below, Disk.Path.IsName name ∧ Disk.Descends name

/-- The path of names below the root of a store. -/
def pathBelow (s : Store) (names : List String) : String := names.foldl Disk.Path.join s.root

/-- The names that lead to the conventional places, best first. -/
def conventionalNames (contract : String) : List (List String) :=
  [["contracts", contract ++ ".sol", contract ++ ".json"],
    ["contracts", contract ++ ".SOL", contract ++ ".json"],
    ["contracts", contract ++ ".sol", contract ++ ".sol", contract ++ ".json"]]

theorem conventional_eq (s : Store) (contract : String) :
    s.conventional contract = (conventionalNames contract).map s.pathBelow := rfl

/-- The names of a conventional place lead to the file of the artifact through directories. -/
theorem exists_nested_of_conventional (hcontract : '/' ∉ contract.toList) {names : List String}
    (h : names ∈ conventionalNames contract) :
    ∃ below, Nested below ∧ names = below ++ [fileName contract] := by
  have hsource {suffix : String} (hsuffix : Disk.Path.IsName suffix) (hlength : 3 ≤ suffix.length) :
      Disk.Path.IsName (contract ++ suffix) ∧ Disk.Descends (contract ++ suffix) :=
    ⟨Disk.Path.isName_append hcontract hsuffix, Disk.descends_append contract hlength⟩
  have hcontracts : Disk.Path.IsName "contracts" ∧ Disk.Descends "contracts" :=
    ⟨⟨by decide, by decide⟩, by decide, by decide, by decide⟩
  have hlower : Disk.Path.IsName (contract ++ ".sol") ∧ Disk.Descends (contract ++ ".sol") :=
    hsource ⟨by decide, by decide⟩ (by decide)
  have hupper : Disk.Path.IsName (contract ++ ".SOL") ∧ Disk.Descends (contract ++ ".SOL") :=
    hsource ⟨by decide, by decide⟩ (by decide)
  simp only [conventionalNames, List.mem_cons, List.not_mem_nil, or_false] at h
  rcases h with rfl | rfl | rfl
  · exact ⟨["contracts", contract ++ ".sol"], by simp [Nested, hcontracts, hlower], rfl⟩
  · exact ⟨["contracts", contract ++ ".SOL"], by simp [Nested, hcontracts, hupper], rfl⟩
  · exact ⟨["contracts", contract ++ ".sol", contract ++ ".sol"],
      by simp [Nested, hcontracts, hlower], rfl⟩

/-- The conventional places are in directories below the one of the store. -/
theorem conventional_cases (hcontract : '/' ∉ contract.toList) {path : String}
    (h : path ∈ s.conventional contract) :
    ∃ below, Nested below ∧ path = s.fileBelow contract below := by
  rw [conventional_eq] at h
  obtain ⟨names, hnames, rfl⟩ := List.mem_map.1 h
  obtain ⟨below, hbelow, rfl⟩ := exists_nested_of_conventional hcontract hnames
  exact ⟨below, hbelow, List.foldl_append⟩

/-- The path of an artifact ends in the name of its file. -/
theorem exists_join_of_locate (hroot : d.root.Unlinked) (hordered : d.root.Ordered)
    (hcontract : '/' ∉ contract.toList) {path : String}
    (h : (s.locate contract d).path = some path) :
    ∃ base, path = Disk.Path.join base (fileName contract) := by
  unfold locate at h
  split at h
  · next path' hfound =>
    obtain rfl := Option.some.inj h
    obtain ⟨below, -, hpath⟩ := conventional_cases hcontract (List.mem_of_find?_eq_some hfound)
    exact ⟨_, hpath⟩
  · exact Disk.exists_join_of_find hordered hroot h

/-! ## Conventional places -/

/-- The names of the root of the store lead to a directory. -/
def Rooted (s : Store) (d : Disk) : Prop :=
  ∃ place entries, Disk.Leads d.root (Disk.start d.here s.root) (Disk.Path.names s.root)
    (.node place (.dir entries))

theorem steps_fileBelow (hcontract : '/' ∉ contract.toList) {below : List String}
    (hbelow : Nested below) :
    Disk.Path.steps (s.fileBelow contract below) =
      Disk.Path.names s.root ++ (below ++ [fileName contract]) := by
  rw [fileBelow, Disk.Path.steps_join (isName_fileName hcontract),
    Disk.Path.names_foldl_join fun name hname => (hbelow name hname).1, List.append_assoc]

theorem start_fileBelow (hcontract : '/' ∉ contract.toList) {below : List String}
    (hbelow : Nested below) (place : List String) :
    Disk.start place (s.fileBelow contract below) = Disk.start place s.root := by
  rw [fileBelow, Disk.start_join (isName_fileName hcontract),
    Disk.start_foldl_join fun name hname => (hbelow name hname).1]

/-- A file of a name that was not written stood before progress where it stands after. -/
theorem file_before (h : Progress above written d d')
    (hfile : ∀ place ∈ written, place.getLast? ≠ some (fileName contract)) {place : List String}
    {node : Disk.Node} (hlast : place.getLast? = some (fileName contract))
    (hnode : d'.root.get? place = some node) (hisFile : node.isFile = true) :
    ∃ node, d.root.get? place = some node ∧ node.isFile = true := by
  cases hbefore : d.root.get? place with
  | none =>
    have hmem : place ∉ written := fun hmem => hfile place hmem hlast
    have hlook := Disk.look_of_get? hnode
    rcases h.new (Disk.look_eq_none.2 hbefore) hmem with hnone | hdir
    · simp [hnone] at hlook
    · rw [hdir, Option.some.injEq] at hlook
      rw [← Disk.Node.isFile_bare, ← hlook] at hisFile
      simp [Disk.Node.isFile] at hisFile
  | some node' => exact ⟨node', rfl, (h.isFile hbefore hnode).symm.trans hisFile⟩

/-- A conventional place holds a file after progress just if it did before. -/
theorem isFile_again (h : Progress above written d d') (hroot : d.root.Unlinked)
    (hfile : ∀ place ∈ written, place.getLast? ≠ some (fileName contract))
    (hcontract : '/' ∉ contract.toList) (hrooted : s.Rooted d) {path : String}
    (hpath : path ∈ s.conventional contract) : d'.isFile path = d.isFile path := by
  obtain ⟨below, hbelow, rfl⟩ := conventional_cases hcontract hpath
  rw [Bool.eq_iff_iff, Disk.isFile_iff hroot, Disk.isFile_iff (h.unlinked hroot)]
  constructor
  · rintro ⟨place, node, ⟨hrefused, hleads⟩, hisFile⟩
    rw [steps_fileBelow hcontract hbelow, start_fileBelow hcontract hbelow, h.here] at hleads
    -- the names below the root go down, and so to a file that stood there before
    obtain ⟨mid, midNode, hmid⟩ := hrooted
    have hdown (name : String) (hname : name ∈ below ++ [fileName contract]) :
        Disk.Descends name ∧ Disk.FitsEntry name := by
      have hdescends : Disk.Descends name := by
        rcases List.mem_append.1 hname with hname | hname
        · exact (hbelow name hname).2
        · exact List.mem_singleton.1 hname ▸ descends_fileName contract
      exact ⟨hdescends, hleads.fits (List.mem_append_right _ hname) hdescends⟩
    have hplace : place = mid ++ (below ++ [fileName contract]) := by
      rw [hleads.place.1, Disk.resolve_append, ← hmid.place.1,
        Disk.resolve_down fun name hname => (hdown name hname).1]
    have hlast : place.getLast? = some (fileName contract) := by
      rw [hplace, ← List.append_assoc, List.getLast?_concat]
    obtain ⟨node', hnode', hisFile'⟩ := file_before h hfile hlast hleads.place.2 hisFile
    refine ⟨place, node', ⟨hrefused, ?_⟩, hisFile'⟩
    rw [steps_fileBelow hcontract hbelow, start_fileBelow hcontract hbelow]
    rw [hplace] at hnode' ⊢
    exact hmid.append (Disk.leads_down hdown hnode')
  · rintro ⟨place, node, hleads, hisFile⟩
    obtain ⟨node', hleads'⟩ := h.leadsTo hleads
    exact ⟨place, node', hleads',
      (h.isFile hleads.2.place.2 hleads'.2.place.2).trans hisFile⟩

/-! ## The whole search -/

/-- Where an artifact was found, the root of the store leads to a directory. -/
theorem rooted_of_locate (hroot : d.root.Unlinked) (hcontract : '/' ∉ contract.toList)
    {path : String} (h : (s.locate contract d).path = some path) : s.Rooted d := by
  unfold locate at h
  split at h
  · next path' hfound =>
    have hisFile : d.isFile path' = true := List.find?_some hfound
    obtain ⟨below, hbelow, rfl⟩ := conventional_cases hcontract (List.mem_of_find?_eq_some hfound)
    obtain ⟨place, node, ⟨-, hleads⟩, -⟩ := (Disk.isFile_iff hroot).1 hisFile
    rw [steps_fileBelow hcontract hbelow, start_fileBelow hcontract hbelow] at hleads
    obtain ⟨mid, midNode, hmid, hrest⟩ := Disk.Leads.split (by simp) hleads
    -- something stands below, and so it is a directory with entries
    have hdown : ∀ name ∈ below ++ [fileName contract], Disk.Descends name := by
      intro name hname
      rcases List.mem_append.1 hname with hname | hname
      · exact (hbelow name hname).2
      · exact List.mem_singleton.1 hname ▸ descends_fileName contract
    obtain ⟨name, names, hcons⟩ : ∃ name names, below ++ [fileName contract] = name :: names :=
      List.exists_cons_of_ne_nil (by simp)
    have hnode := hrest.place.2
    rw [hrest.place.1, Disk.resolve_down hdown, hcons] at hnode
    cases midNode with
    | dir entries => exact ⟨mid, entries, hmid⟩
    | _ =>
      rw [Disk.Node.get?_below (by rw [hmid.place.2]; rintro _ ⟨⟩; rfl)] at hnode
      simp at hnode
  · obtain ⟨entries, hdir⟩ := Disk.dir_of_find h
    obtain ⟨place, hleads⟩ := (Disk.node_iff hroot).1 hdir
    exact ⟨place, entries, hleads.names⟩

/-- Below a root that is there, an artifact is found after progress just where it was before. -/
theorem locate_again (h : Progress above written d d') (hroot : d.root.Unlinked)
    (hordered : d.root.Ordered)
    (hfile : ∀ place ∈ written, place.getLast? ≠ some (fileName contract))
    (hcontract : '/' ∉ contract.toList) (hrooted : s.Rooted d) :
    (s.locate contract d').path = (s.locate contract d).path := by
  have hconventional : (s.conventional contract).find? d'.isFile =
      (s.conventional contract).find? d.isFile :=
    List.find?_congr fun path hpath => isFile_again h hroot hfile hcontract hrooted hpath
  unfold locate
  rw [hconventional]
  cases (s.conventional contract).find? d.isFile with
  | some path' => rfl
  | none =>
    obtain ⟨place, entries, hleads⟩ := hrooted
    cases hrefused : Disk.refused s.root with
    | some fault => simp [Disk.find, Disk.node, Disk.walk, hrefused]
    | none =>
      have hdir : d.node s.root = .ok (.dir entries) :=
        (Disk.node_iff hroot).2 ⟨place, Disk.leadsTo_of_names hrefused hleads rfl⟩
      exact Disk.path_find_again h hroot hordered hfile hdir

/-- What is found as an artifact is a file. -/
theorem leads_of_locate (hroot : d.root.Unlinked) (hordered : d.root.Ordered)
    (hnamed : d.root.Named) {path : String} (h : (s.locate contract d).path = some path) :
    ∃ place node, Disk.Leads d.root (Disk.start d.here path) (Disk.Path.steps path)
      (.node place node) ∧ node.isFile = true := by
  unfold locate at h
  split at h
  · next path' hfound =>
    obtain rfl := Option.some.inj h
    have hisFile : d.isFile path' = true := List.find?_some hfound
    obtain ⟨place, node, hleads, hisFile⟩ := (Disk.isFile_iff hroot).1 hisFile
    exact ⟨place, node, hleads.2, hisFile⟩
  · exact Disk.leads_of_find hordered hroot hnamed h

/-! ## Reading -/

/-- A file is read after progress elsewhere as it was before, or is as far out of reach. -/
theorem readText_again (h : Progress above written d d') (hroot : d.root.Unlinked)
    {path : String} {place : List String} {node : Disk.Node}
    (hleads : Disk.Leads d.root (Disk.start d.here path) (Disk.Path.steps path) (.node place node))
    (hleaf : node.isDir = false) (helse : ∀ p ∈ written, ¬d.Touches p place) :
    d'.readText path = d.readText path := by
  have hnode : d'.node path = d.node path := by
    cases hrefused : Disk.refused path with
    | some fault => simp [Disk.node, Disk.walk, hrefused]
    | none =>
      have hleads' := h.leadsTo_leaf ⟨hrefused, hleads⟩ hleaf helse
      rw [(Disk.node_iff hroot).2 ⟨place, hrefused, hleads⟩,
        (Disk.node_iff (h.unlinked hroot)).2 ⟨place, hleads'⟩]
  unfold Disk.readText Disk.readBytes
  rw [hnode]

/-- What can be read stands in a file, or in a device. -/
theorem leadsTo_of_readText (hroot : d.root.Unlinked) {path text : String}
    (h : d.readText path = .ok text) :
    ∃ node, d.LeadsTo path (d.place path) node ∧ node.isDir = false := by
  obtain ⟨node, hnode, hleaf⟩ : ∃ node, d.node path = .ok node ∧ node.isDir = false := by
    unfold Disk.readText Disk.readBytes at h
    cases hnode : d.node path with
    | error fault => simp [hnode] at h
    | ok node =>
      cases node with
      | file _ _ => exact ⟨_, rfl, rfl⟩
      | device _ => exact ⟨_, rfl, rfl⟩
      | _ => simp [hnode] at h
  obtain ⟨place, hleads⟩ := (Disk.node_iff hroot).1 hnode
  obtain rfl : place = d.place path := hleads.2.place.1
  exact ⟨node, hleads, hleaf⟩

/-- Nothing is written to an artifact that is found, if it is not written to under another name. -/
theorem not_touches_of_locate (hroot : d.root.Unlinked) (hordered : d.root.Ordered)
    (hfile : ∀ place ∈ written, place.getLast? ≠ some (fileName contract))
    (hcontract : '/' ∉ contract.toList) {path : String}
    (hlocate : (s.locate contract d).path = some path)
    (hapart : ∀ p ∈ written, ¬d.SameFile p (d.place path)) :
    ∀ p ∈ written, ¬d.Touches p (d.place path) := by
  rintro p hp (hsame | hsame)
  · -- the outputs have other names
    obtain ⟨base, rfl⟩ := exists_join_of_locate hroot hordered hcontract hlocate
    rw [Disk.place_join (isName_fileName hcontract) (descends_fileName contract)] at hsame
    exact hfile p hp (hsame ▸ List.getLast?_concat ..)
  · exact hapart p hp hsame

theorem load_fst (s : Store) (contract : String) (d : Disk) :
    (s.load contract d).1 =
      match (s.locate contract d).path with
      | none => .error (.artifactNotFound s.root (fileName contract))
      | some path => (readAt path d).map fun artifact => (path, artifact) := by
  unfold load
  obtain ⟨found, log⟩ := s.locate contract d
  cases found with
  | none => rfl
  | some path =>
    simp only
    cases readAt path d <;> rfl

/-- An artifact is loaded if it is found and can be read. -/
theorem load_iff {path : String} {artifact : Artifact} :
    (s.load contract d).1 = .ok (path, artifact) ↔
      (s.locate contract d).path = some path ∧ readAt path d = .ok artifact := by
  rw [load_fst]
  cases (s.locate contract d).path with
  | none => simp
  | some path' =>
    simp only [Option.some.injEq]
    cases hread : readAt path' d with
    | error e =>
      simp only [Except.map, reduceCtorEq, false_iff]
      rintro ⟨rfl, hok⟩
      simp [hread] at hok
    | ok artifact' =>
      simp only [Except.map, Except.ok.injEq, Prod.mk.injEq]
      constructor
      · rintro ⟨rfl, rfl⟩
        exact ⟨rfl, hread⟩
      · rintro ⟨rfl, hok⟩
        rw [hread, Except.ok.injEq] at hok
        exact ⟨rfl, hok⟩

/-- An artifact is loaded after progress as it was before, if nothing was written to its file. -/
theorem load_again (h : Progress above written d d') (hroot : d.root.Unlinked)
    (hordered : d.root.Ordered)
    (hfile : ∀ place ∈ written, place.getLast? ≠ some (fileName contract))
    (hcontract : '/' ∉ contract.toList) {path : String} {artifact : Artifact}
    (hload : (s.load contract d).1 = .ok (path, artifact))
    (hapart : ∀ p ∈ written, ¬d.SameFile p (d.place path)) :
    (s.load contract d').1 = .ok (path, artifact) := by
  obtain ⟨hlocate, hread⟩ := load_iff.1 hload
  have hrooted := rooted_of_locate hroot hcontract hlocate
  refine load_iff.2 ⟨(locate_again h hroot hordered hfile hcontract hrooted).trans hlocate, ?_⟩
  have helse := not_touches_of_locate hroot hordered hfile hcontract hlocate hapart
  unfold readAt at hread ⊢
  cases htext : d.readText path with
  | error fault => simp [htext] at hread
  | ok text =>
    obtain ⟨node, hleads, hleaf⟩ := leadsTo_of_readText hroot htext
    rw [readText_again h hroot hleads.2 hleaf helse]
    exact hread

/-- Below a root that is there, the loading of an artifact comes to the same after progress, whether
it is found or not, and whether it can be read or not. -/
theorem load_same (h : Progress above written d d') (hroot : d.root.Unlinked)
    (hordered : d.root.Ordered) (hnamed : d.root.Named)
    (hfile : ∀ place ∈ written, place.getLast? ≠ some (fileName contract))
    (hcontract : '/' ∉ contract.toList) (hrooted : s.Rooted d)
    (hapart : ∀ path, (s.locate contract d).path = some path →
      ∀ p ∈ written, ¬d.SameFile p (d.place path)) :
    (s.load contract d').1 = (s.load contract d).1 := by
  rw [load_fst, load_fst, locate_again h hroot hordered hfile hcontract hrooted]
  cases hlocate : (s.locate contract d).path with
  | none => rfl
  | some path =>
    obtain ⟨place, node, hleads, hisFile⟩ := leads_of_locate hroot hordered hnamed hlocate
    have hleaf : node.isDir = false := by
      cases node <;> simp_all [Disk.Node.isFile, Disk.Node.isDir]
    have helse := not_touches_of_locate hroot hordered hfile hcontract hlocate
      (hapart path hlocate)
    have hread : d'.readText path = d.readText path :=
      readText_again h hroot hleads hleaf (hleads.place.1 ▸ helse)
    simp only [readAt, hread]

end ContractBindings.Store
