import ContractBindings.Proofs.Disk.Write

/-!
# Writing several outputs

Outputs are written one after the other, up to the first that cannot be written.

1. `progress_writeOutputs`: nothing changes but the outputs and directories above them, and outputs
   that share no file stand afterwards.
2. `writeOutputs_again`: outputs that were all written can be written again, and nothing changes.
3. `Stands.readText`: an output that stands can be read back.
-/

namespace ContractBindings.Disk

/-- What the writing of several outputs comes to. -/
structure Writing where
  /-- The path that could not be written to, if there was one. -/
  failure : Option (String × Fault) := none
  /-- The outputs that were written, with their texts. -/
  done : List (String × String) := []
  disk : Disk

/-- Writes texts to paths, in order, up to the first that cannot be written. -/
def writeOutputs (d : Disk) : List (String × String) → Writing
  | [] => { disk := d }
  | (path, text) :: rest =>
    match d.writeOutput path text with
    | (.error fault, d) => { failure := some (path, fault), disk := d }
    | (.ok (), d) =>
      let later := writeOutputs d rest
      { later with done := (path, text) :: later.done }

variable {above : List String} {d d' : Disk}

/-- All outputs are written, or all before the one that fails. -/
theorem writeOutputs_end (d : Disk) (outputs : List (String × String)) :
    match (d.writeOutputs outputs).failure with
    | none => (d.writeOutputs outputs).done = outputs
    | some (path, _) =>
      ∃ text rest, outputs = (d.writeOutputs outputs).done ++ (path, text) :: rest := by
  induction outputs generalizing d with
  | nil => rfl
  | cons o rest ih =>
    rw [writeOutputs]
    cases hwrite : d.writeOutput o.1 o.2 with
    | mk result d₁ =>
      cases result with
      | error fault => exact ⟨o.2, rest, rfl⟩
      | ok _ =>
        have hrest := ih d₁
        simp only
        cases hfailure : (d₁.writeOutputs rest).failure with
        | none =>
          rw [hfailure] at hrest
          simp only at hrest ⊢
          rw [hrest]
        | some failure =>
          rw [hfailure] at hrest
          obtain ⟨text, rest', hrest⟩ := hrest
          exact ⟨text, rest', by rw [List.cons_append, ← hrest]⟩

theorem done_writeOutputs (d : Disk) (outputs : List (String × String)) :
    (d.writeOutputs outputs).done <+: outputs := by
  have hend := writeOutputs_end d outputs
  cases hfailure : (d.writeOutputs outputs).failure with
  | none =>
    rw [hfailure] at hend
    exact ⟨[], by rw [List.append_nil, hend]⟩
  | some failure =>
    rw [hfailure] at hend
    obtain ⟨text, rest, hrest⟩ := hend
    exact ⟨_, hrest.symm⟩

/-- Nothing has changed but the outputs and directories above them. What was written stands where
the outputs share no file, and could be written again. -/
theorem progress_writeOutputs {outputs : List (String × String)} (hroot : d.root.Unlinked)
    (hnames : ∀ o ∈ outputs, EndsInName o.1) (habove : ∀ o ∈ outputs, pathsAbove o.1 ⊆ above) :
    let w := d.writeOutputs outputs
    Progress above (w.done.map fun o => d.place o.1) d w.disk ∧
      (∀ o ∈ w.done, w.disk.Accepts o.1 o.2) ∧
      ((outputs.Pairwise fun o o' => ¬d.Touches (d.place o'.1) (d.place o.1)) →
        ∀ o ∈ w.done, w.disk.Stands o.1 o.2) := by
  induction outputs generalizing d with
  | nil => exact ⟨.refl above d, by simp [writeOutputs]⟩
  | cons o rest ih =>
    have hup := habove o List.mem_cons_self
    rw [writeOutputs]
    cases hwrite : d.writeOutput o.1 o.2 with
    | mk result d₁ =>
      cases result with
      | error fault => exact ⟨writeOutput_error hroot hup hwrite, by simp⟩
      | ok _ =>
        obtain ⟨hfirst, hstands, -⟩ :=
          writeOutput_ok hroot (hnames o List.mem_cons_self) hup hwrite
        have hroot₁ := hfirst.unlinked hroot
        obtain ⟨hlater, haccepts, hdone⟩ := ih hroot₁
          (fun o ho => hnames o (List.mem_cons_of_mem _ ho))
          (fun o ho => habove o (List.mem_cons_of_mem _ ho))
        refine ⟨hfirst.trans (hfirst.place_eq ▸ hlater), ?_, ?_⟩
        · exact List.forall_mem_cons.2 ⟨hstands.toAccepts.kept hroot₁ hlater, haccepts⟩
        intro hapart
        rw [List.pairwise_cons] at hapart
        refine List.forall_mem_cons.2 ⟨?_, hdone ?_⟩
        · refine hstands.kept hroot₁ hlater ?_
          -- the outputs written later are among the others, which this one is apart from
          intro p hp htouch
          obtain ⟨o', ho', rfl⟩ := List.mem_map.1 hp
          rw [hfirst.touches, hfirst.place, hfirst.place] at htouch
          exact hapart.1 o' ((done_writeOutputs d₁ rest).subset ho') htouch
        · refine hapart.2.imp ?_
          intro o o' hne
          rwa [hfirst.touches, hfirst.place, hfirst.place]

/-! ## Writing again -/

/-- Nothing changes where nothing was written and no directory made. -/
theorem eq_of_progress (hordered : d.root.Ordered) (h : Progress [] [] d d') : d' = d :=
  eq_of_look hordered (h.ordered hordered) h.here h.clock h.lastIdentity
    fun _ => h.untouched (by simp)

/-- A step of writing again, on a disk `e` that differs from the first result `d'` in the bytes of
outputs alone: the difference goes where the output is not written to later. -/
theorem progress_again {place : List String} {rest : List (List String)} {bytes : ByteArray}
    {d₁ e e₁ : Disk} (hlater : Progress above rest d₁ d')
    (hfirst : ∀ q, d₁.Touches place q →
      ∃ before, d₁.look q = Node.overwritten d₁.clock bytes before)
    (he : Progress [] (place :: rest) d' e) (hwrote : Wrote place bytes e e₁)
    (hprogress : Progress [] [place] e e₁) : Progress [] rest d' e₁ := by
  have hboth := he.trans hprogress
  refine ⟨hboth.here, hboth.clock, hboth.lastIdentity, hboth.ordered, ?_, ?_⟩
  · intro q hq
    left
    by_cases htouch : d'.Touches place q
    · -- written now and not later: both disks have the bytes of this output
      obtain ⟨before, hbefore⟩ := hfirst q ((hlater.touches _ _).1 htouch)
      have hkept : d'.look q = d₁.look q := by
        have helse (p : List String) (hp : p ∈ rest) : ¬d₁.Touches p q :=
          fun ht => hq p hp ((hlater.touches p q).2 ht)
        refine (hlater.elsewhere q helse).resolve_right ?_
        rintro ⟨hnone, -⟩
        exact Node.overwritten_ne_none _ _ _ (hbefore.symm.trans hnone)
      have hover := he.overwrites place List.mem_cons_self q htouch
      rw [hwrote.touched q ((he.touches _ _).2 htouch), he.clock, hover.overwritten bytes,
        hkept, hbefore, hlater.clock, Node.overwritten_twice]
    · -- not written at all: they did not differ there
      have helse : ∀ p ∈ place :: rest, ¬d'.Touches p q := List.forall_mem_cons.2 ⟨htouch, hq⟩
      rw [hwrote.elsewhere q fun ht => htouch ((he.touches _ _).1 ht), he.untouched helse]
  · intro p hp q htouch
    exact hboth.overwrites p (List.mem_append_left _ (List.mem_cons_of_mem _ hp)) q htouch

/-- Where all outputs were written, they can be written again, and come to the same disk, also from
a disk that differs from it in the bytes of the outputs. -/
theorem writeOutputs_redo {outputs : List (String × String)} {e : Disk} (hroot : d.root.Unlinked)
    (hordered : d.root.Ordered) (hnames : ∀ o ∈ outputs, EndsInName o.1)
    (hdone : (d.writeOutputs outputs).failure = none)
    (he : Progress [] (outputs.map fun o => d.place o.1) (d.writeOutputs outputs).disk e) :
    e.writeOutputs outputs = { done := outputs, disk := (d.writeOutputs outputs).disk } := by
  -- `d` goes through the first writing and `e` through the second, towards the same result
  induction outputs generalizing d e with
  | nil =>
    obtain rfl := eq_of_progress hordered he
    rfl
  | cons o rest ih =>
    rw [List.forall_mem_cons] at hnames
    cases hwrite : d.writeOutput o.1 o.2 with
    | mk result d₁ =>
      cases result with
      | error fault => simp [writeOutputs, hwrite] at hdone
      | ok _ =>
        have hwhole : d.writeOutputs (o :: rest) =
            { d₁.writeOutputs rest with done := o :: (d₁.writeOutputs rest).done } := by
          rw [writeOutputs, hwrite]
        rw [hwhole] at hdone he ⊢
        obtain ⟨hfirst, hstands, hlook⟩ :=
          writeOutput_ok hroot hnames.1 (List.Subset.refl _) hwrite
        have hroot₁ := hfirst.unlinked hroot
        have hlater := (progress_writeOutputs hroot₁ hnames.2
          fun o ho p hp => List.mem_flatMap.2 ⟨o, ho, hp⟩).1
        have hend := writeOutputs_end d₁ rest
        rw [hdone] at hend
        have hroot' := hlater.unlinked hroot₁
        obtain ⟨e₁, hwriteAgain, hwrote, hprogress⟩ := ((hstands.toAccepts.kept hroot₁ hlater).kept
          hroot' he).again (he.unlinked hroot') hnames.1
        rw [he.place, hlater.place, hfirst.place] at hwrote hprogress
        rw [hend, hfirst.place_eq] at hlater
        have hbytes (q : List String) (htouch : d₁.Touches (d.place o.1) q) :
            ∃ before, d₁.look q = Node.overwritten d₁.clock (Text.toBytes o.2) before :=
          ⟨d.look q, by rw [hlook q ((hfirst.touches _ _).1 htouch), hfirst.clock]⟩
        have hrest := progress_again hlater hbytes he hwrote hprogress
        rw [writeOutputs, hwriteAgain]
        simp only [ih hroot₁ (hfirst.ordered hordered) hnames.2 hdone (hfirst.place_eq ▸ hrest)]

/-- Outputs that were written can be written again, and nothing changes. -/
theorem writeOutputs_again {outputs : List (String × String)} (hroot : d.root.Unlinked)
    (hordered : d.root.Ordered) (hnames : ∀ o ∈ outputs, EndsInName o.1)
    (hdone : (d.writeOutputs outputs).failure = none) :
    let d' := (d.writeOutputs outputs).disk
    d'.writeOutputs outputs = { done := outputs, disk := d' } := by
  intro d'
  refine writeOutputs_redo hroot hordered hnames hdone (.same [] ?_)
  obtain ⟨hprogress, haccepts, -⟩ := progress_writeOutputs hroot hnames
    fun o ho p hp => List.mem_flatMap.2 ⟨o, ho, hp⟩
  have hend := writeOutputs_end d outputs
  rw [hdone] at hend
  rw [hend] at haccepts
  intro p hp
  obtain ⟨o, ho, rfl⟩ := List.mem_map.1 hp
  obtain ⟨node, hleads, htakes⟩ := (haccepts o ho).file
  rw [hprogress.place] at hleads
  refine ⟨node.bare, look_of_get? hleads.2.place.2, ?_⟩
  rw [Node.isDir_bare]
  exact htakes.leaf

theorem ofBytes?_toBytes (text : String) : Text.ofBytes? (Text.toBytes text) = some text :=
  dif_pos text.isValidUTF8

/-- An output that stands on no device is a file. -/
theorem Stands.node (hroot : d.root.Unlinked) {path text : String} (h : d.Stands path text)
    (hdevice : ∀ device, d.look (d.place path) ≠ some (.device device)) :
    ∃ attributes, d.node path = .ok (.file (Text.toBytes text) attributes) := by
  obtain ⟨node, hleads, htakes⟩ := h.file
  have hnode : d.node path = .ok node := (node_iff hroot).2 ⟨_, hleads⟩
  have hlook := look_of_get? hleads.2.place.2
  cases node with
  | file bytes attributes =>
    obtain rfl := h.holds bytes attributes hlook
    exact ⟨attributes, hnode⟩
  | device device => exact absurd hlook (hdevice device)
  | _ => exact htakes.elim

/-- An output that stands on no device can be read back. -/
theorem Stands.readText (hroot : d.root.Unlinked) {path text : String} (h : d.Stands path text)
    (hdevice : ∀ device, d.look (d.place path) ≠ some (.device device)) :
    d.readText path = .ok text := by
  obtain ⟨attributes, hnode⟩ := h.node hroot hdevice
  rw [Disk.readText, readBytes, hnode]
  simp only [ofBytes?_toBytes]

end ContractBindings.Disk
