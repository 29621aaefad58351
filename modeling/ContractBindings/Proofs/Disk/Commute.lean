import ContractBindings.Proofs.Disk.Outputs
import ContractBindings.Proofs.Disk.Parent

/-!
# Writing in either order

Two lists of outputs that stand next to each other and share no file can be written in either order.
The disk comes to be the same, and each list is written as far as it is on its own.

1. `SameDirs`: on disks with the same directories, paths lead to the same places.
2. `writeText_beside`: whether a text can be written depends on what stands at its place alone.
3. `writeTexts_beside`: what else was written makes no difference to the writing of a list.
4. `writeOutputs_comm`: the lists can change places.
-/

namespace ContractBindings.Disk

variable {above : List String} {written : List (List String)} {d d' e e' : Disk}

/-! ## The same directories -/

/-- Two disks have the same directories, and a program works in the same one of them. -/
structure SameDirs (d e : Disk) : Prop where
  here : e.here = d.here
  look : ∀ q (node : Node), node.isDir → (d.look q = some node ↔ e.look q = some node)

theorem SameDirs.symm (h : SameDirs d e) : SameDirs e d where
  here := h.here.symm
  look q node hdir := (h.look q node hdir).symm

theorem Progress.sameDirs (h : Progress [] written d d') : SameDirs d d' where
  here := h.here
  look q node hdir := by
    constructor
    · intro hlook
      refine (h.kept hlook).resolve_right ?_
      rintro ⟨hleaf, -⟩
      simp [hdir] at hleaf
    · intro hlook
      by_cases htouch : ∃ p ∈ written, d.Touches p q
      · -- what was written to is no directory
        obtain ⟨p, hp, htouch⟩ := htouch
        obtain ⟨leaf, hafter, hleaf⟩ := (h.overwrites p hp q htouch).leaf_after
        rw [hlook, Option.some.injEq] at hafter
        simp [hafter ▸ hdir] at hleaf
      · rw [← hlook, h.untouched fun p hp ht => htouch ⟨p, hp, ht⟩]

theorem SameDirs.dirAt (h : SameDirs d e) {q : List String} (hdir : d.root.DirAt q) :
    e.root.DirAt q := by
  obtain ⟨node, hnode, hisDir⟩ := hdir
  rw [← Node.isDir_bare] at hisDir
  obtain ⟨node', hnode', hbare⟩ :=
    Option.map_eq_some_iff.1 ((h.look q _ hisDir).1 (look_of_get? hnode))
  exact ⟨node', hnode', by rw [← Node.isDir_bare, hbare, hisDir]⟩

/-- A walk leads to a place on both disks, if something stands there on both. -/
theorem SameDirs.leads (h : SameDirs d e) {start steps place : List String} {node node' : Node}
    (hnode' : e.root.get? place = some node')
    (hleads : Leads d.root start steps (.node place node)) :
    Leads e.root start steps (.node place node') := by
  generalize hspot : Spot.node place node = spot at hleads
  induction hleads with
  | arrive _ =>
    obtain ⟨rfl, rfl⟩ := Spot.node.inj hspot
    exact .arrive hnode'
  | stay hdir hname _ ih => exact .stay (h.dirAt hdir) hname (ih hspot)
  | up hdir _ ih => exact .up (h.dirAt hdir) (ih hspot)
  | @down start rest name spot mid hdir hname hfits _ hrest ih =>
    obtain ⟨mid', hmid'⟩ : ∃ mid', e.root.get? (start ++ [name]) = some mid' := by
      cases rest with
      | nil =>
        subst hspot
        obtain rfl : place = start ++ [name] := hrest.place.1
        exact ⟨node', hnode'⟩
      | cons _ _ =>
        obtain ⟨mid', hmid', -⟩ := h.dirAt hrest.dirAt
        exact ⟨mid', hmid'⟩
    exact .down (h.dirAt hdir) hname hfits hmid' (ih hspot)
  | vacant => simp at hspot
  | sealedOff => simp at hspot

theorem SameDirs.dir (h : SameDirs d e) {q : List String} {entries : List (String × Node)}
    (hdir : d.root.get? q = some (.dir entries)) :
    ∃ entries', e.root.get? q = some (.dir entries') :=
  dir_of_look ((h.look q _ rfl).1 (look_of_get? hdir))

theorem SameDirs.sealed (h : SameDirs d e) {q : List String} {forDirectory forFile : Fault}
    (hsealed : d.root.get? q = some (.sealed forDirectory forFile)) :
    e.root.get? q = some (.sealed forDirectory forFile) :=
  get?_of_look ((h.look q _ rfl).1 (look_of_get? hsealed)) (by simp)

/-- A walk comes to a vacant place on both disks, if nothing stands there on both. -/
theorem SameDirs.leads_vacant (h : SameDirs d e) {start steps place : List String} {name : String}
    (hnone : e.root.get? (place ++ [name]) = none)
    (hleads : Leads d.root start steps (.vacant place name)) :
    Leads e.root start steps (.vacant place name) := by
  generalize hspot : Spot.vacant place name = spot at hleads
  induction hleads with
  | arrive => simp at hspot
  | stay hdir hname _ ih => exact .stay (h.dirAt hdir) hname (ih hspot)
  | up hdir _ ih => exact .up (h.dirAt hdir) (ih hspot)
  | @down _ rest _ _ _ hdir hname hfits _ hrest ih =>
    cases rest with
    | nil =>
      subst hspot
      cases hrest
    | cons _ _ =>
      obtain ⟨mid', hmid', -⟩ := h.dirAt hrest.dirAt
      exact .down (h.dirAt hdir) hname hfits hmid' (ih hspot)
  | vacant hdir hname hfits _ =>
    obtain ⟨rfl, rfl⟩ := Spot.vacant.inj hspot
    obtain ⟨entries', hdir'⟩ := h.dir hdir
    exact .vacant hdir' hname hfits hnone
  | sealedOff hsealed hname =>
    obtain ⟨rfl, rfl⟩ := Spot.vacant.inj hspot
    exact .sealedOff (h.sealed hsealed) hname

/-! ## Writing a text next to others -/

theorem SameDirs.filePlace (h : SameDirs d e) (hd : d.root.Unlinked) (he : e.root.Unlinked)
    {path : String} (hname : EndsInName path)
    (hlook : e.look (d.place path) = d.look (d.place path)) {place : List String}
    (hplace : d.filePlace path = .ok place) : e.filePlace path = .ok place := by
  unfold Disk.filePlace at hplace ⊢
  split at hplace
  · next p node hwalk =>
    obtain ⟨hrefused, hleads⟩ := (walk_write_iff hd hname).1 hwalk
    split at hplace
    · simp at hplace
    · next hleaf =>
      obtain rfl := Except.ok.inj hplace
      obtain rfl : p = d.place path := hleads.place.1
      have hnode := hleads.place.2
      have hnode' := get?_eq_of_look hlook (by simpa [hnode] using hleaf)
      have hleads' := h.leads (hnode'.trans hnode) hleads
      rw [← h.here] at hleads'
      rw [(walk_write_iff he hname).2 ⟨hrefused, hleads'⟩]
      simp [hleaf]
  · next p name hwalk =>
    obtain ⟨hrefused, hleads⟩ := (walk_write_iff hd hname).1 hwalk
    obtain ⟨hp, -, -, hnone⟩ := hleads.vacancy
    split at hplace
    · simp at hplace
    · next hseal =>
      have hnone' : e.root.get? (p ++ [name]) = none := by
        have hsame : p ++ [name] = d.place path := hp
        rw [← hsame] at hlook
        exact look_eq_none.1 (hlook.trans (look_eq_none.2 hnone))
      have hleads' := h.leads_vacant hnone' hleads
      rw [← h.here] at hleads'
      have hseal' : e.seal? p true = none := by
        unfold seal? at hseal ⊢
        split
        · next hsealed => simp [h.symm.sealed hsealed] at hseal
        · rfl
      rw [(walk_write_iff he hname).2 ⟨hrefused, hleads'⟩]
      simpa [hseal'] using hplace
  · simp at hplace

theorem writeAt_congr {place : List String} {bytes : ByteArray}
    (h : e.root.get? place = d.root.get? place) (hd : d.writeAt place bytes = .ok d') :
    ∃ e', e.writeAt place bytes = .ok e' := by
  unfold writeAt at hd ⊢
  rw [h]
  cases hnode : d.root.get? place with
  | none => exact ⟨_, rfl⟩
  | some node =>
    rw [hnode] at hd
    cases node with
    | file old attributes =>
      simp only
      split <;> exact ⟨_, rfl⟩
    | device device =>
      cases device with
      | terminal => simp at hd
      | full =>
        simp only at hd ⊢
        split at hd
        · next hempty => exact ⟨e, if_pos hempty⟩
        · simp at hd
      | _ => exact ⟨e, rfl⟩
    | _ => exact ⟨_, rfl⟩

/-- Whether a text can be written depends on the directories and on what stands at its place. -/
theorem writeText_beside (h : SameDirs d e) (hd : d.root.Unlinked) (he : e.root.Unlinked)
    {path text : String} (hname : EndsInName path)
    (hlook : e.look (d.place path) = d.look (d.place path))
    (hwrite : d.writeText path text = .ok d') : ∃ e', e.writeText path text = .ok e' := by
  unfold writeText writeBytes at hwrite ⊢
  cases hplace : d.filePlace path with
  | error fault =>
    rw [hplace] at hwrite
    simp [Except.bind] at hwrite
  | ok place =>
    rw [hplace] at hwrite
    rw [h.filePlace hd he hname hlook hplace]
    obtain ⟨rfl, -, hleaf, -⟩ := filePlace_ok hd hname hplace
    exact writeAt_congr (get?_eq_of_look hlook hleaf) hwrite

/-! ## Writing texts in directories that are there -/

/-- Writes texts to paths, in order, up to the first that cannot be written. No directories are
made. -/
def writeTexts (d : Disk) : List (String × String) → Writing
  | [] => { disk := d }
  | (path, text) :: rest =>
    match d.writeText path text with
    | .error fault => { failure := some (path, fault), disk := d }
    | .ok d =>
      let later := writeTexts d rest
      { later with done := (path, text) :: later.done }

theorem done_writeTexts (d : Disk) (outputs : List (String × String)) :
    (d.writeTexts outputs).done <+: outputs := by
  induction outputs generalizing d with
  | nil => exact List.prefix_refl []
  | cons o rest ih =>
    rw [writeTexts]
    cases d.writeText o.1 o.2 with
    | error fault => exact List.nil_prefix
    | ok d₁ => exact List.cons_prefix_cons.2 ⟨rfl, ih d₁⟩

theorem progress_writeTexts {outputs : List (String × String)} (hroot : d.root.Unlinked)
    (hnames : ∀ o ∈ outputs, EndsInName o.1) :
    Progress [] ((d.writeTexts outputs).done.map fun o => d.place o.1) d
      (d.writeTexts outputs).disk := by
  induction outputs generalizing d with
  | nil => exact .refl [] d
  | cons o rest ih =>
    rw [List.forall_mem_cons] at hnames
    rw [writeTexts]
    cases hwrite : d.writeText o.1 o.2 with
    | error fault => exact .refl [] d
    | ok d₁ =>
      have hfirst := (writeText_ok hroot hnames.1 hwrite).2.1 []
      have hlater := ih (hfirst.unlinked hroot) hnames.2
      rw [hfirst.place_eq] at hlater
      exact hfirst.trans hlater

/-- A text is written on two disks that differ in files elsewhere. They differ in those still. -/
theorem Wrote.beside {place : List String} {bytes : ByteArray} (h : Progress [] written d e)
    (hordered : e.root.Ordered) (hplace : ∀ p ∈ written, ¬d.Touches p place)
    (hd : Wrote place bytes d d') (hdd : Progress [] [place] d d') (he : Wrote place bytes e e') :
    Progress [] written d' e' where
  here := he.here.trans (h.here.trans hd.here.symm)
  clock := he.clock.trans (h.clock.trans hd.clock.symm)
  lastIdentity := he.lastIdentity.trans (h.lastIdentity.trans hd.lastIdentity.symm)
  ordered _ := he.ordered hordered
  elsewhere q hq := by
    left
    have hsame := h.untouched fun p hp ht => hq p hp ((hdd.touches p q).2 ht)
    by_cases htouch : d.Touches place q
    · rw [hd.touched q htouch, he.touched q ((h.touches _ _).2 htouch), hsame, h.clock]
    · rw [hd.elsewhere q htouch, he.elsewhere q fun ht => htouch ((h.touches _ _).1 ht), hsame]
  overwrites p hp q htouch := by
    have htouch := (hdd.touches p q).1 htouch
    -- what is touched elsewhere is not touched here
    have hnot : ¬d.Touches place q := fun ht => hplace p hp (htouch.trans ht.symm)
    rw [hd.elsewhere q hnot, he.elsewhere q fun ht => hnot ((h.touches _ _).1 ht), hd.clock]
    exact h.overwrites p hp q htouch

/-- What was written elsewhere makes no difference to the writing of texts, and stays. -/
theorem writeTexts_beside {outputs : List (String × String)} (h : Progress [] written d e)
    (hroot : d.root.Unlinked) (hordered : e.root.Ordered)
    (hnames : ∀ o ∈ outputs, EndsInName o.1)
    (hapart : ∀ o ∈ outputs, ∀ p ∈ written, ¬d.Touches p (d.place o.1)) :
    (e.writeTexts outputs).failure.map Prod.fst = (d.writeTexts outputs).failure.map Prod.fst ∧
      (e.writeTexts outputs).done = (d.writeTexts outputs).done ∧
      Progress [] written (d.writeTexts outputs).disk (e.writeTexts outputs).disk := by
  induction outputs generalizing d e with
  | nil => exact ⟨rfl, rfl, h⟩
  | cons o rest ih =>
    rw [List.forall_mem_cons] at hnames hapart
    have hroot' := h.unlinked hroot
    have hlook := h.untouched hapart.1
    have hlook' : d.look (e.place o.1) = e.look (e.place o.1) := by rw [h.place, hlook]
    rw [writeTexts, writeTexts]
    cases hd : d.writeText o.1 o.2 with
    | error fault =>
      cases he : e.writeText o.1 o.2 with
      | error fault' => exact ⟨rfl, rfl, h⟩
      | ok e₁ =>
        obtain ⟨d₁, hd₁⟩ :=
          writeText_beside h.sameDirs.symm hroot' hroot hnames.1 hlook' he
        simp [hd] at hd₁
    | ok d₁ =>
      obtain ⟨e₁, he⟩ := writeText_beside h.sameDirs hroot hroot' hnames.1 hlook hd
      obtain ⟨hwrote, hprogress, -⟩ := writeText_ok hroot hnames.1 hd
      obtain ⟨hwrote', hprogress', -⟩ := writeText_ok hroot' hnames.1 he
      rw [h.place] at hwrote'
      have hfirst := hprogress []
      have hrest := Wrote.beside h hordered hapart.1 hwrote hfirst hwrote'
      obtain ⟨hfailure, hdone, hdisk⟩ := ih hrest (hfirst.unlinked hroot)
        (hwrote'.ordered hordered) hnames.2 fun o ho p hp => by
          rw [hfirst.touches, hfirst.place]
          exact hapart.2 o ho p hp
      rw [he]
      exact ⟨hfailure, congrArg (o :: ·) hdone, hdisk⟩

/-- Texts that go to files of their own can be written in either order. -/
theorem writeTexts_comm {os ps : List (String × String)} (hroot : d.root.Unlinked)
    (hordered : d.root.Ordered) (hos : ∀ o ∈ os, EndsInName o.1) (hps : ∀ p ∈ ps, EndsInName p.1)
    (hapart : ∀ o ∈ os, ∀ p ∈ ps, ¬d.Touches (d.place o.1) (d.place p.1)) :
    let a := d.writeTexts os
    let b := d.writeTexts ps
    (a.disk.writeTexts ps).disk = (b.disk.writeTexts os).disk ∧
      (a.disk.writeTexts ps).failure.map Prod.fst = b.failure.map Prod.fst ∧
      (b.disk.writeTexts os).failure.map Prod.fst = a.failure.map Prod.fst := by
  intro a b
  have ha : Progress [] (a.done.map fun o => d.place o.1) d a.disk := progress_writeTexts hroot hos
  have hb : Progress [] (b.done.map fun p => d.place p.1) d b.disk := progress_writeTexts hroot hps
  have apart {o p : String × String} (ho : o ∈ a.done) (hp : p ∈ b.done) :
      ¬d.Touches (d.place o.1) (d.place p.1) :=
    hapart o ((done_writeTexts d os).subset ho) p ((done_writeTexts d ps).subset hp)
  obtain ⟨hfailure, hdone, hdisk⟩ := writeTexts_beside ha hroot (ha.ordered hordered) hps
    fun p hp => List.forall_mem_map.2 fun o ho =>
      hapart o ((done_writeTexts d os).subset ho) p hp
  obtain ⟨hfailure', hdone', hdisk'⟩ := writeTexts_beside hb hroot (hb.ordered hordered) hos
    fun o ho => List.forall_mem_map.2 fun p hp htouch =>
      hapart o ho p ((done_writeTexts d ps).subset hp) htouch.symm
  -- each list is written after the other at the places where it is written alone
  have hab : Progress [] (b.done.map fun p => d.place p.1) a.disk (a.disk.writeTexts ps).disk := by
    have h := progress_writeTexts (ha.unlinked hroot) hps
    rwa [hdone, ha.place_eq] at h
  have hba : Progress [] (a.done.map fun o => d.place o.1) b.disk (b.disk.writeTexts os).disk := by
    have h := progress_writeTexts (hb.unlinked hroot) hos
    rwa [hdone', hb.place_eq] at h
  refine ⟨?_, hfailure, hfailure'⟩
  refine eq_of_look (hba.ordered (hb.ordered hordered)) (hab.ordered (ha.ordered hordered))
    (hab.here.trans hdisk'.here.symm) (hab.clock.trans hdisk'.clock.symm)
    (hab.lastIdentity.trans hdisk'.lastIdentity.symm) fun q => ?_
  by_cases htouch : ∃ o ∈ a.done, d.Touches (d.place o.1) q
  · -- written by the first list, and so not by the second
    obtain ⟨o, ho, htouch⟩ := htouch
    have hnot : ∀ r ∈ b.done.map fun p => d.place p.1, ¬a.disk.Touches r q :=
      List.forall_mem_map.2 fun p hp ht =>
        apart ho hp (htouch.trans ((ha.touches _ _).1 ht).symm)
    rw [hab.untouched hnot, hdisk'.untouched hnot]
  · have hnot : ∀ r ∈ a.done.map fun o => d.place o.1, ¬b.disk.Touches r q :=
      List.forall_mem_map.2 fun o ho ht => htouch ⟨o, ho, (hb.touches _ _).1 ht⟩
    rw [hba.untouched hnot, hdisk.untouched hnot]

/-! ## Writing outputs in one directory -/

theorem makeParent_congr {path path' : String} (h : Path.parent? path = Path.parent? path') :
    d.makeParent path = d.makeParent path' := by
  rw [makeParent, makeParent, h]

theorem makeParent_kept {path : String} (hroot : d.root.Unlinked)
    (h : d.makeParent path = (.ok (), d)) (hprogress : Progress above written d d') :
    d'.makeParent path = (.ok (), d') := by
  obtain ⟨-, hdir⟩ := progress_makeParent hroot (List.Subset.refl _) h
  unfold makeParent
  cases hparent : Path.parent? path with
  | none => rfl
  | some parent =>
    exact createDirAll_again (hprogress.unlinked hroot)
      ((hdir rfl parent hparent).imp_right (hprogress.isDir hroot))

/-- Where the directories above all outputs are there, only texts are written. -/
theorem writeOutputs_eq_writeTexts {outputs : List (String × String)} (hroot : d.root.Unlinked)
    (hnames : ∀ o ∈ outputs, EndsInName o.1)
    (hmade : ∀ o ∈ outputs, d.makeParent o.1 = (.ok (), d)) :
    d.writeOutputs outputs = d.writeTexts outputs := by
  induction outputs generalizing d with
  | nil => rfl
  | cons o rest ih =>
    rw [List.forall_mem_cons] at hnames hmade
    rw [writeOutputs, writeTexts, writeOutput_eq, hmade.1]
    cases hwrite : d.writeText o.1 o.2 with
    | error fault => simp only [hwrite]
    | ok d₁ =>
      have hfirst := (writeText_ok hroot hnames.1 hwrite).2.1 []
      have hrest := ih (hfirst.unlinked hroot) hnames.2
        fun o ho => makeParent_kept hroot (hmade.2 o ho) hfirst
      simp only [hwrite, hrest]

/-- Outputs with one parent are written once it is made a directory. -/
theorem writeOutputs_of_made {path : String} {outputs : List (String × String)}
    (hroot : d.root.Unlinked) (hnil : outputs ≠ [])
    (houtputs : ∀ o ∈ outputs, EndsInName o.1 ∧ Path.parent? o.1 = Path.parent? path)
    (h : d.makeParent path = (.ok (), e)) : d.writeOutputs outputs = e.writeTexts outputs := by
  obtain ⟨o, rest, rfl⟩ := List.exists_cons_of_ne_nil hnil
  have hroot' := (progress_makeParent hroot (List.Subset.refl _) h).1.unlinked hroot
  have hfirst := (makeParent_congr (d := d) (houtputs o List.mem_cons_self).2).trans h
  have hmade (p : String × String) (hp : p ∈ o :: rest) : e.makeParent p.1 = (.ok (), e) :=
    (makeParent_congr (houtputs p hp).2).trans (makeParent_again hroot h)
  have hsame : d.writeOutputs (o :: rest) = e.writeOutputs (o :: rest) := by
    rw [writeOutputs, writeOutputs, writeOutput_eq, writeOutput_eq, hfirst,
      hmade o List.mem_cons_self]
  rw [hsame, writeOutputs_eq_writeTexts hroot' (fun p hp => (houtputs p hp).1) hmade]

/-- From then on only texts are written. -/
theorem writeOutputs_later {path : String} {outputs : List (String × String)}
    (hroot : d.root.Unlinked) (hnil : outputs ≠ [])
    (houtputs : ∀ o ∈ outputs, EndsInName o.1 ∧ Path.parent? o.1 = Path.parent? path)
    (h : d.makeParent path = (.ok (), e)) (hlater : Progress [] written e e') :
    e'.writeOutputs outputs = e'.writeTexts outputs := by
  have hroot' := (progress_makeParent hroot (List.Subset.refl _) h).1.unlinked hroot
  exact writeOutputs_of_made (hlater.unlinked hroot') hnil houtputs
    (makeParent_kept hroot' (makeParent_again hroot h) hlater)

theorem writeOutputs_of_failed {path : String} {o : String × String}
    {rest : List (String × String)} {fault : Fault}
    (hparent : Path.parent? o.1 = Path.parent? path) (h : d.makeParent path = (.error fault, e)) :
    d.writeOutputs (o :: rest) = { failure := some (o.1, fault), disk := e } := by
  rw [writeOutputs, writeOutput_eq, makeParent_congr hparent, h]

/-- Outputs that stand next to each other and share no file can be written in either order. -/
theorem writeOutputs_comm {os ps : List (String × String)} {parent : Option String}
    (hroot : d.root.Unlinked) (hordered : d.root.Ordered) (hnil : os ≠ []) (hnil' : ps ≠ [])
    (hos : ∀ o ∈ os, EndsInName o.1 ∧ Path.parent? o.1 = parent)
    (hps : ∀ p ∈ ps, EndsInName p.1 ∧ Path.parent? p.1 = parent)
    (hapart : ∀ o ∈ os, ∀ p ∈ ps, ¬d.Touches (d.place o.1) (d.place p.1)) :
    let a := d.writeOutputs os
    let b := d.writeOutputs ps
    (a.disk.writeOutputs ps).disk = (b.disk.writeOutputs os).disk ∧
      (a.disk.writeOutputs ps).failure.map Prod.fst = b.failure.map Prod.fst ∧
      (b.disk.writeOutputs os).failure.map Prod.fst = a.failure.map Prod.fst := by
  obtain ⟨path, rfl⟩ : ∃ path, Path.parent? path = parent := by
    obtain ⟨o, ho⟩ := List.exists_mem_of_ne_nil os hnil
    exact ⟨o.1, (hos o ho).2⟩
  cases hmade : d.makeParent path with
  | mk result e =>
    cases result with
    | error fault =>
      -- nothing is written, and the directories are not made at the second attempt either
      obtain ⟨fault', hfailed⟩ := makeParent_failed hroot hmade
      obtain ⟨o, os, rfl⟩ := List.exists_cons_of_ne_nil hnil
      obtain ⟨p, ps, rfl⟩ := List.exists_cons_of_ne_nil hnil'
      have ho := (hos o List.mem_cons_self).2
      have hp := (hps p List.mem_cons_self).2
      rw [writeOutputs_of_failed ho hmade, writeOutputs_of_failed hp hmade]
      intro a b
      rw [writeOutputs_of_failed ho hfailed, writeOutputs_of_failed hp hfailed]
      exact ⟨rfl, rfl, rfl⟩
    | ok _ =>
      have hmaking := (progress_makeParent hroot (List.Subset.refl _) hmade).1
      have hroot' := hmaking.unlinked hroot
      have hosNames : ∀ o ∈ os, EndsInName o.1 := fun o ho => (hos o ho).1
      have hpsNames : ∀ p ∈ ps, EndsInName p.1 := fun p hp => (hps p hp).1
      rw [writeOutputs_of_made hroot hnil hos hmade, writeOutputs_of_made hroot hnil' hps hmade]
      intro a b
      rw [writeOutputs_later hroot hnil' hps hmade (progress_writeTexts hroot' hosNames),
        writeOutputs_later hroot hnil hos hmade (progress_writeTexts hroot' hpsNames)]
      refine writeTexts_comm hroot' (hmaking.ordered hordered) hosNames hpsNames ?_
      intro o ho p hp
      rw [hmaking.touches, hmaking.place, hmaking.place]
      exact hapart o ho p hp

end ContractBindings.Disk
