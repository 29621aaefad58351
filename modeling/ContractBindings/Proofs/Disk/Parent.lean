import ContractBindings.Proofs.Disk.Path
import ContractBindings.Proofs.Disk.Write
import Mathlib.Data.List.DropRight

/-!
# Making directories twice

Outputs that stand next to each other have one parent. The first output that is written makes it a
directory, or fails to; the others find it as the first has left it.

1. `Path.parent?_join`: what the parent of a path is does not depend on its last name.
2. `isDir_parent`: above a directory there is a directory.
3. `makeParent_again`, `makeParent_failed`: directories that were made, or could not be made, are
   made again or not again, and the second attempt changes nothing.
-/

namespace ContractBindings.Disk

namespace Path

/-! ## Parts and parents -/

/-- The parts with slashes between them are the text. -/
theorem intercalate_parts (s : List Char) : List.intercalate ['/'] (parts s) = s := by
  induction s with
  | nil => rfl
  | cons c rest ih =>
    rw [parts]
    split
    · next hc => rw [List.intercalate_cons_of_ne_nil (parts_ne_nil rest), ih, hc]; rfl
    · cases hparts : parts rest with
      | nil => exact absurd hparts (parts_ne_nil rest)
      | cons part others =>
        rw [hparts] at ih
        cases others with
        | nil => simpa using ih
        | cons other others =>
          rw [List.intercalate_cons_cons] at ih ⊢
          rw [← ih]
          rfl

/-- Where the parts of a text are cut in two, the text is cut at a slash. -/
theorem exists_slash {path : List Char} {r t : List (List Char)} (h : parts path = r ++ t)
    (hr : r ≠ []) (ht : t ≠ []) : ∃ s u, path = s ++ '/' :: u ∧ parts s = r ∧ parts u = t := by
  induction path generalizing r with
  | nil =>
    obtain ⟨a, r, rfl⟩ := List.exists_cons_of_ne_nil hr
    obtain ⟨b, t, rfl⟩ := List.exists_cons_of_ne_nil ht
    simp [parts] at h
  | cons c rest ih =>
    obtain ⟨first, r, rfl⟩ := List.exists_cons_of_ne_nil hr
    rw [parts, List.cons_append] at h
    split at h
    · next hc =>
      obtain ⟨rfl, hrest⟩ := List.cons.inj h
      cases r with
      | nil => exact ⟨[], rest, by rw [hc]; rfl, rfl, hrest⟩
      | cons second r =>
        obtain ⟨s, u, rfl, hs, hu⟩ := ih hrest (by simp)
        exact ⟨c :: s, u, rfl, by rw [parts, if_pos hc, hs], hu⟩
    · next hc =>
      cases hparts : parts rest with
      | nil => exact absurd hparts (parts_ne_nil rest)
      | cons part others =>
        rw [hparts] at h
        obtain ⟨rfl, rfl⟩ := List.cons.inj h
        obtain ⟨s, u, rfl, hs, hu⟩ := ih (r := part :: r) hparts (by simp)
        exact ⟨c :: s, u, rfl, by simp [parts, hc, hs], hu⟩

/-- Parts at the end that do not count are left out, but for the first part. -/
theorem withoutIdleEnd_spec {ps : List (List Char)} (h : ps ≠ []) :
    withoutIdleEnd ps ≠ [] ∧ ∃ idle, ps = withoutIdleEnd ps ++ idle := by
  obtain ⟨first, rest, rfl⟩ := List.exists_cons_of_ne_nil h
  obtain ⟨idle, hidle⟩ : rest.rdropWhile isIdle <+: rest := List.rdropWhile_prefix isIdle rest
  exact ⟨by simp [withoutIdleEnd], idle, (congrArg (first :: ·) hidle).symm⟩

theorem getLast_withoutIdleEnd {ps q : List (List Char)} {last : List Char}
    (h : withoutIdleEnd ps = q ++ [last]) (hq : q ≠ []) : last ≠ [] := by
  cases ps with
  | nil => simp [withoutIdleEnd] at h
  | cons first rest =>
    obtain ⟨head, q, rfl⟩ := List.exists_cons_of_ne_nil hq
    rw [withoutIdleEnd, List.cons_append, List.cons.injEq] at h
    have hrest : rest.rdropWhile isIdle = q ++ [last] := h.2
    have hne : rest.rdropWhile isIdle ≠ [] := by simp [hrest]
    have hlast := List.rdropWhile_last_not isIdle rest hne
    rintro rfl
    simp [hrest, isIdle] at hlast

/-- A parent that is not empty is what is before a slash, or that slash at the root. What comes
after it has a name. -/
theorem exists_slash_of_parent? {path parent : String} (h : parent? path = some parent)
    (hne : parent ≠ "") :
    ∃ s u, path.toList = s ++ '/' :: u ∧ (∃ part ∈ parts u, part ≠ []) ∧
      (parent.toList = s ∨ s = [] ∧ parent = "/") := by
  obtain ⟨hq, idle, hps⟩ := withoutIdleEnd_spec (parts_ne_nil path.toList)
  unfold parent? at h
  split at h
  · simp at h
  · generalize hwhole : withoutIdleEnd (parts path.toList) = q at h hq hps
    split at h
    · simp at h
    · next only =>
      split at h
      · simp at h
      · exact absurd (Option.some.inj h).symm hne
    · next several hsingle =>
      obtain ⟨init, last, rfl⟩ := (List.eq_nil_or_concat' q).resolve_left hq
      have hinit : init ≠ [] := by
        rintro rfl
        exact hsingle last rfl
      obtain ⟨hr, idle', hidle'⟩ := withoutIdleEnd_spec hinit
      rw [List.dropLast_concat, Option.some.injEq] at h
      generalize withoutIdleEnd init = r at h hr hidle'
      -- the last part that counts comes after the parts of the parent
      have hparts : parts path.toList = r ++ (idle' ++ [last] ++ idle) := by
        rw [hps, hidle']
        simp
      obtain ⟨s, u, hpath, hs, hu⟩ := exists_slash hparts hr (by simp)
      refine ⟨s, u, hpath, ⟨last, by simp [hu], getLast_withoutIdleEnd hwhole hinit⟩, ?_⟩
      rw [ofParts, ← hs] at h
      split at h
      · next hroot =>
        refine .inr ⟨?_, h.symm⟩
        rw [← intercalate_parts s, hroot]
        rfl
      · rw [← h, intercalate_parts]
        simp

/-- The names of a path are those of its parent, and more. -/
theorem names_of_parent? {path parent : String} (h : parent? path = some parent)
    (hne : parent ≠ "") : ∃ below, below ≠ [] ∧ names path = names parent ++ below := by
  obtain ⟨s, u, hpath, ⟨part, hpart, hnonempty⟩, hparent⟩ := exists_slash_of_parent? h hne
  have hnames : names parent = ((parts s).filter (!·.isEmpty)).map String.ofList := by
    rcases hparent with rfl | ⟨rfl, rfl⟩
    · rfl
    · decide
  refine ⟨((parts u).filter (!·.isEmpty)).map String.ofList, ?_, ?_⟩
  · have hmem : part ∈ (parts u).filter (!·.isEmpty) :=
      List.mem_filter.2 ⟨hpart, by simpa using hnonempty⟩
    exact List.ne_nil_of_mem (List.mem_map_of_mem hmem)
  · rw [hnames, names, hpath, parts_append_slash, List.filter_append, List.map_append]

/-- A path begins with its parent. -/
theorem exists_append_of_parent? {path parent : String} (h : parent? path = some parent)
    (hne : parent ≠ "") : ∃ rest, path = parent ++ rest := by
  obtain ⟨s, u, hpath, -, hparent⟩ := exists_slash_of_parent? h hne
  rcases hparent with rfl | ⟨rfl, rfl⟩
  · exact ⟨"/" ++ String.ofList u, String.toList_inj.1 (by simp [hpath])⟩
  · exact ⟨String.ofList u, String.toList_inj.1 (by simp [hpath])⟩

/-- The parts that a path has before a name that is put below it. -/
def partsAbove (base : String) : List (List Char) :=
  if base.isEmpty then [] else if endsInSlash base then (parts base.toList).dropLast
  else parts base.toList

theorem parts_join {base name : String} (h : IsName name) :
    parts (join base name).toList = partsAbove base ++ [name.toList] := by
  rw [join_of_isName h, partsAbove]
  by_cases hempty : base = ""
  · subst hempty
    simpa using parts_of_no_slash h.2
  have hempty' : base.isEmpty = false := by simpa using hempty
  cases hslash : endsInSlash base with
  | true =>
    obtain ⟨s, rfl⟩ := eq_append_slash hslash
    have hbase : parts (s ++ "/").toList = parts s.toList ++ [[]] := by
      rw [String.toList_append]
      exact parts_append_slash s.toList []
    have hjoin : (s ++ "/" ++ name).toList = s.toList ++ '/' :: name.toList := by simp
    simp only [hempty', hbase, hjoin, parts_append_slash, parts_of_no_slash h.2,
      List.dropLast_concat, Bool.or_true, Bool.false_eq_true, if_true, if_false]
  | false =>
    have hjoin : (base ++ "/" ++ name).toList = base.toList ++ '/' :: name.toList := by simp
    simp [hempty', hjoin, parts_append_slash, parts_of_no_slash h.2]

theorem withoutIdleEnd_concat (ps : List (List Char)) {last : List Char} (h : isIdle last = false) :
    withoutIdleEnd (ps ++ [last]) = ps ++ [last] := by
  cases ps with
  | nil => rfl
  | cons first rest =>
    have hrest : (rest ++ [last]).rdropWhile isIdle = rest ++ [last] :=
      List.rdropWhile_concat_neg isIdle rest last (by simp [h])
    exact congrArg (first :: ·) hrest

/-- The parent of a path that puts a name below another path. -/
def parentBelow (base : String) : Option String :=
  if partsAbove base = [] then some "" else some (ofParts (withoutIdleEnd (partsAbove base)))

/-- What is above a name that is put below a path depends on that path alone. -/
theorem parent?_join {base name : String} (h : IsName name) (hname : Descends name) :
    parent? (join base name) = parentBelow base := by
  have hne : name.toList ≠ [] := by simpa using h.1
  have hdot : name.toList ≠ ['.'] := fun hdot => hname.2.1 (String.toList_inj.1 hdot)
  have hidle : isIdle name.toList = false := by simp [isIdle, hne, hdot]
  have hparts : parts (join base name).toList = partsAbove base ++ [name.toList] := parts_join h
  have hjoin : (join base name).isEmpty = false := by
    rw [Bool.eq_false_iff]
    intro hempty
    rw [String.isEmpty_iff] at hempty
    rw [hempty] at hparts
    have hlast := congrArg List.getLast? hparts
    simp [parts] at hlast
    exact h.1 hlast
  rw [parent?, hjoin, hparts, withoutIdleEnd_concat _ hidle, parentBelow]
  cases hbase : partsAbove base with
  | nil => simp [hne]
  | cons first rest =>
    have hdrop : (first :: rest ++ [name.toList]).dropLast = first :: rest := List.dropLast_concat
    cases rest with
    | nil => simp
    | cons second rest => exact congrArg (fun ps => some (ofParts (withoutIdleEnd ps))) hdrop

end Path

variable {above : List String} {written : List (List String)} {d d' : Disk}

/-! ## Above a directory -/

/-- What the operating system takes as a path it takes as the beginning of one. -/
theorem refused_append {s t : String} (hs : s ≠ "") (h : refused (s ++ t) = none) :
    refused s = none := by
  unfold refused at h ⊢
  split at h
  · simp at h
  · next hnul =>
    split at h
    · simp at h
    · split at h
      · simp at h
      · next hlong =>
        rw [String.toList_append, List.contains_append, Bool.or_eq_true, not_or] at hnul
        rw [String.utf8ByteSize_append] at hlong
        rw [if_neg hnul.1, if_neg (by simpa using hs), if_neg (by omega)]

/-- Where all names of a path but the last lead to a directory, its parent is one. -/
theorem isDir_parent_of_leads (hroot : d.root.Unlinked) {path parent : String}
    (hparent : Path.parent? path = some parent) (hne : parent ≠ "") (hrefused : refused path = none)
    {place : List String} {node : Node}
    (hleads : Leads d.root (start d.here path) (Path.names path).dropLast (.node place node))
    (hdir : node.isDir) : d.isDir parent := by
  obtain ⟨below, hbelow, hnames⟩ := Path.names_of_parent? hparent hne
  obtain ⟨rest, rfl⟩ := Path.exists_append_of_parent? hparent hne
  have hstart : start d.here (parent ++ rest) = start d.here parent := by
    rw [start, start, Path.isAbsolute_append hne]
  rw [hnames, List.dropLast_append_of_ne_nil hbelow, hstart] at hleads
  obtain ⟨mid, midNode, hmid, hmidDir⟩ : ∃ mid midNode,
      Leads d.root (start d.here parent) (Path.names parent) (.node mid midNode) ∧
        midNode.isDir := by
    by_cases hrest : below.dropLast = []
    · rw [hrest, List.append_nil] at hleads
      exact ⟨place, node, hleads, hdir⟩
    · obtain ⟨mid, midNode, hmid, hdown⟩ := Leads.split hrest hleads
      obtain ⟨name, names, hcons⟩ := List.exists_cons_of_ne_nil hrest
      obtain ⟨midNode', hmidNode', hmidDir⟩ := (hcons ▸ hdown).dirAt
      obtain rfl := Option.some.inj (hmid.place.2.symm.trans hmidNode')
      exact ⟨mid, midNode, hmid, hmidDir⟩
  exact (isDir_iff hroot).2
    ⟨mid, midNode, leadsTo_of_names (refused_append hne hrefused) hmid hmidDir, hmidDir⟩

/-- Above a directory there is a directory. -/
theorem isDir_parent (hroot : d.root.Unlinked) {path parent : String}
    (hparent : Path.parent? path = some parent) (hne : parent ≠ "") (h : d.isDir path) :
    d.isDir parent := by
  obtain ⟨place, node, ⟨hrefused, hleads⟩, hdir⟩ := (isDir_iff hroot).1 h
  obtain ⟨below, hbelow, hnames⟩ := Path.names_of_parent? hparent hne
  obtain ⟨name, hlast⟩ : ∃ name, (Path.names path).getLast? = some name := by
    rw [← Option.ne_none_iff_exists', ne_eq, List.getLast?_eq_none_iff, hnames]
    simp [hbelow]
  obtain ⟨slash, hsteps, -⟩ := steps_of_getLast? hlast
  rw [hsteps] at hleads
  obtain ⟨mid, midNode, hinit, hrest⟩ := Leads.split (by simp) hleads
  obtain ⟨midNode', hmidNode', hmidDir⟩ := hrest.dirAt
  obtain rfl := Option.some.inj (hinit.place.2.symm.trans hmidNode')
  exact isDir_parent_of_leads hroot hparent hne hrefused hinit hmidDir

/-- Where there is no directory above a path, none can be made at it. -/
theorem createDir_of_not_parent (hroot : d.root.Unlinked) {path parent : String}
    (hparent : Path.parent? path = some parent) (hne : parent ≠ "") (h : d.isDir parent = false) :
    ∃ fault, d.createDir path = .error fault := by
  unfold createDir
  cases hdirectory : d.directoryOf path with
  | error fault => exact ⟨fault, rfl⟩
  | ok place =>
    obtain ⟨hrefused, node, hdir, hleads⟩ := directoryOf_ok hroot hdirectory
    simp [isDir_parent_of_leads hroot hparent hne hrefused hleads hdir] at h

/-! ## A second attempt -/

theorem createEach_again (hroot : d.root.Unlinked) {paths : List String}
    (h : ∀ path ∈ paths.head?, d.isDir path) : d.createEach paths = (.ok (), d) := by
  cases paths with
  | nil => rfl
  | cons path parents =>
    have hdir : d.isDir path := h path rfl
    rw [createEach, createDir_again hroot hdir]
    simp [hdir]

/-- A directory that could not be made cannot be made afterwards, if the same holds of its parents.
What was made on the way stays as it is. -/
theorem createEach_cons_failed {path : String} {parents : List String} {fault : Fault}
    (hroot : d.root.Unlinked)
    (hparents : ∀ {fault e}, d.createEach parents = (.error fault, e) →
      ∃ parent, Path.parent? path = some parent ∧ parent ≠ "" ∧ e.isDir parent = false ∧
        ∃ fault', e.createEach parents = (.error fault', e))
    (h : d.createEach (path :: parents) = (.error fault, d')) :
    d'.isDir path = false ∧ ∃ fault', d'.createEach (path :: parents) = (.error fault', d') := by
  have notDir {e : Disk} {fault₁ : Fault}
      (h : (if e.isDir path then .ok () else .error fault₁ : Except Fault Unit) = .error fault) :
      e.isDir path = false := by
    split at h
    · simp at h
    · next hdir => simpa using hdir
  rw [createEach] at h ⊢
  split at h
  · simp at h
  · split at h
    · -- a parent could not be made, and so neither it nor this can be made now
      next fault₁ d₁ hfailed =>
      obtain ⟨-, rfl⟩ := Prod.mk.inj h
      obtain ⟨parent, hparent, hne, hdir, fault', hfailed'⟩ := hparents hfailed
      have hroot₁ : d₁.root.Unlinked :=
        (progress_createEach hroot (fun _ hp => hp) hfailed).1.unlinked hroot
      have hpath : d₁.isDir path = false :=
        Bool.eq_false_iff.2 fun hd => by simp [isDir_parent hroot₁ hparent hne hd] at hdir
      obtain ⟨fault₂, hcreate⟩ := createDir_of_not_parent hroot₁ hparent hne hdir
      refine ⟨hpath, ?_⟩
      rw [hcreate]
      cases fault₂ <;> simp [hfailed', hpath]
    · next d₁ hmade =>
      split at h
      · simp at h
      · -- the parents are there now, and this fails as it did
        next fault₁ hcreate =>
        obtain ⟨hresult, rfl⟩ := Prod.mk.inj h
        obtain ⟨hprogress, hdir⟩ := progress_createEach hroot (fun _ hp => hp) hmade
        have hagain := createEach_again (hprogress.unlinked hroot) (hdir rfl)
        refine ⟨notDir hresult, ?_⟩
        rw [hcreate]
        cases fault₁ <;> simp [hagain, hcreate, notDir hresult]
  · next fault₁ hother hcreate =>
    obtain ⟨hresult, rfl⟩ := Prod.mk.inj h
    refine ⟨notDir hresult, fault₁, ?_⟩
    rw [hcreate]
    simp [notDir hresult]

theorem createEach_failed {count : Nat} {path : String} {fault : Fault} (hroot : d.root.Unlinked)
    (h : d.createEach (Path.ancestorsWithin count path) = (.error fault, d')) :
    d'.isDir path = false ∧
      ∃ fault', d'.createEach (Path.ancestorsWithin count path) = (.error fault', d') := by
  induction count generalizing path d' fault with
  | zero => simp [Path.ancestorsWithin, createEach] at h
  | succ count ih =>
    rw [Path.ancestorsWithin] at h ⊢
    split at h
    · simp [createEach] at h
    next hpath =>
    rw [if_neg hpath]
    refine createEach_cons_failed hroot ?_ h
    intro fault e hfailed
    cases hparent : Path.parent? path with
    | none => simp [hparent, createEach] at hfailed
    | some parent =>
      rw [hparent] at hfailed
      refine ⟨parent, rfl, ?_, ih hfailed⟩
      rintro rfl
      cases count <;> simp [Path.ancestorsWithin, createEach] at hfailed

/-- The directories above a path are there once they were made. -/
theorem makeParent_again {path : String} (hroot : d.root.Unlinked)
    (h : d.makeParent path = (.ok (), d')) : d'.makeParent path = (.ok (), d') := by
  obtain ⟨hprogress, hdir⟩ := progress_makeParent hroot (List.Subset.refl _) h
  unfold makeParent
  cases hparent : Path.parent? path with
  | none => rfl
  | some parent => exact createDirAll_again (hprogress.unlinked hroot) (hdir rfl parent hparent)

/-- The directories above a path cannot be made where they could not be made before. -/
theorem makeParent_failed {path : String} {fault : Fault} (hroot : d.root.Unlinked)
    (h : d.makeParent path = (.error fault, d')) :
    ∃ fault', d'.makeParent path = (.error fault', d') := by
  unfold makeParent at h ⊢
  split at h
  · next parent hparent => exact (createEach_failed hroot h).2
  · simp at h

end ContractBindings.Disk
