import ContractBindings.Proofs.Extraction.Changes

/-!
# Running again

A run that succeeded can be made again, and comes to the same. What the first run wrote is neither
found in place of the artifact nor written over it, wherever the outputs go, unless an output was
the artifact itself under another name.

1. `finds_again`: after its own outputs were written, a run finds the artifact that it found before.
2. `extract_again`: a run makes the same of the disk that it leaves.
3. `run_again`: a second run has the result of the first and leaves the disk as it is, if no output
   is another name of the artifact.
4. `run_again_shared`: where one is, the first run writes over what the second one reads.
-/

namespace ContractBindings.Extraction

open Disk (Node)

variable {s : Settings} {directory : String} {d d' : Disk}

/-- No output is another name of the file that a run finds as its artifact. -/
def Settings.Apart (s : Settings) (d : Disk) : Prop :=
  ∀ path, (Store.locate ⟨s.artifactsDir⟩ s.contract d).path = some path →
    ∀ o ∈ s.planned, ¬d.SameFile (s.place d o) (d.place path)

theorem apart_of_plain (h : d.root.Plain) : s.Apart d :=
  fun _ _ _ _ hsame => hsame.1 (Disk.identityAt_of_plain h _)

/-- An output has another name than an artifact. -/
theorem fileName_ne (contract : String) (o : Output) :
    contract ++ o.suffix ≠ Store.fileName contract := by
  intro h
  have hlist := congrArg String.toList h
  rw [Store.fileName, String.toList_append, String.toList_append,
    List.append_cancel_left_eq] at hlist
  revert hlist
  cases o <;> decide

theorem last_place (hs : s.Within directory) (d : Disk) (o : Output) :
    (s.place d o).getLast? ≠ some (Store.fileName s.contract) := by
  rw [Settings.place, place_path hs, List.getLast?_concat]
  exact fun h => fileName_ne s.contract o (Option.some.inj h)

/-- After progress at the places of its outputs, a run finds what it found before. -/
theorem finds_again (hs : s.Within directory) {above : List String} {written : List Output}
    (hwritten : written ⊆ s.planned)
    (h : Disk.Progress above (written.map (s.place d)) d d') (hroot : d.root.Unlinked)
    (hordered : d.root.Ordered) (hapart : s.Apart d) {path : String} {artifact : Artifact}
    {interface : Abi.Interface} (hfinds : s.Finds d path artifact interface) :
    s.Finds d' path artifact interface := by
  refine ⟨Store.load_again h hroot hordered ?_ hs.contract hfinds.1 ?_, hfinds.2⟩
  · exact List.forall_mem_map.2 fun o _ => last_place hs d o
  · exact List.forall_mem_map.2 fun o ho =>
      hapart path (Store.load_iff.1 hfinds.1).1 o (hwritten ho)

/-- What succeeds on a disk comes to the same on the disk that it leaves, and leaves that as it
is. -/
theorem extract_again (hs : s.Within directory) (hroot : d.root.Unlinked)
    (hordered : d.root.Ordered) (hapart : s.Apart d) {x : Extracted}
    (hextract : (extract s d).result = .ok x) :
    (extract s (extract s d).disk).result = .ok x ∧
      (extract s (extract s d).disk).disk = (extract s d).disk := by
  obtain ⟨path, artifact, interface, hfinds⟩ := finds_of_extract hextract
  obtain ⟨hresult, hleft⟩ := extract_of_finds hfinds
  rw [hextract] at hresult
  have hend := Disk.writeOutputs_end d (s.texts artifact interface)
  cases hfailure : (d.writeOutputs (s.texts artifact interface)).failure with
  | some failure => simp [hfailure] at hresult
  | none =>
    rw [hfailure] at hresult hend
    -- only the places of the outputs were written
    obtain ⟨hprogress, -⟩ := progress_texts hs.outputs hroot artifact interface
    rw [hend, places_texts, ← hleft] at hprogress
    have hfinds' := finds_again hs (List.Subset.refl _) hprogress hroot hordered hapart hfinds
    obtain ⟨hresult', hleft'⟩ := extract_of_finds hfinds'
    have hwritten := Disk.writeOutputs_again hroot hordered
      (endsInName_texts hs.outputs artifact interface) hfailure
    rw [← hleft] at hwritten
    rw [hwritten] at hresult' hleft'
    exact ⟨hresult'.trans hresult.symm, hleft'⟩

/-- A run that has its artifacts is what it extracts from the disk. -/
theorem run_of_skip (compiler : Compile.Compiler) (hskip : s.skipCompile = true) (w : World) :
    (run compiler s w).1 = (extract s w.disk).result ∧
      (run compiler s w).2.disk = (extract s w.disk).disk :=
  run_of_compiled (by simp [compiled, hskip]) (by simp [compiled, hskip])

/-- A run that succeeded succeeds again, with the same result, and changes nothing. The disk is a
tree without symbolic links, and no output is the artifact itself under another name. -/
theorem run_again (compiler : Compile.Compiler) (hs : s.Within directory)
    (hskip : s.skipCompile = true) (w : World) (hroot : w.disk.root.Unlinked)
    (hordered : w.disk.root.Ordered) (hapart : s.Apart w.disk) {x : Extracted} {w' : World}
    (hrun : run compiler s w = (.ok x, w')) :
    let again := run compiler s w'
    again.1 = .ok x ∧ again.2.disk = w'.disk := by
  intro again
  obtain ⟨hresult, hleft⟩ := run_of_skip compiler hskip w
  rw [hrun] at hresult hleft
  have hleft : w'.disk = (extract s w.disk).disk := hleft
  obtain ⟨hresult', hleft'⟩ := run_of_skip compiler hskip w'
  rw [hleft] at hresult' hleft' ⊢
  obtain ⟨hsame, hkept⟩ := extract_again hs hroot hordered hapart hresult.symm
  exact ⟨hresult'.trans hsame, hleft'.trans hkept⟩

theorem Sample.sound_contracts : Sample.contracts.Sound :=
  Node.sound_single (by decide) (Node.sound_single (by decide) (Node.sound_file _ _))

theorem Sample.sound_beside : (Sample.beside (.file .empty) (.file .empty)).root.Sound := by
  have order : ["T-abi.json", "contracts", "keep"].Pairwise (· < ·) := by decide
  have names : ∀ name ∈ ["T-abi.json", "contracts", "keep"],
      Disk.Path.IsName name ∧ Disk.Descends name ∧ Disk.FitsEntry name := by decide
  refine Node.sound_dir order names ?_
  simp only [List.forall_mem_cons, List.not_mem_nil]
  exact ⟨Node.sound_file _ _, Sample.sound_contracts, Node.sound_file _ _, by simp⟩

/-- A run that writes over a file next to its artifacts, twice. -/
theorem run_again_beside :
    let s := Sample.settings ""
    let first := run (Sample.leaving {}) s { disk := Sample.beside (.file .empty) (.file .empty) }
    let again := run (Sample.leaving {}) s first.2
    ∃ x, first.1 = .ok x ∧ again.1 = .ok x ∧ again.2.disk = first.2.disk := by
  intro s first again
  obtain ⟨hresult, -⟩ := Sample.run_writing (Sample.leaving {}) true
    { disk := Sample.beside (.file .empty) (.file .empty) } rfl rfl
    (Sample.writeOutput_plain .empty _ _) rfl
  have hs : s.Within "" := ⟨rfl, by decide⟩
  have hplain := Sample.plain_beside
  have hfirst : run (Sample.leaving {}) s
      { disk := Sample.beside (.file .empty) (.file .empty) } = (.ok _, first.2) :=
    Prod.ext hresult rfl
  exact ⟨_, hresult, run_again (Sample.leaving {}) hs rfl _ Sample.sound_beside.unlinked
    Sample.sound_beside.ordered (apart_of_plain hplain) hfirst⟩

/-! ## An output that is the artifact -/

namespace Sample

/-- A disk where the first output is another name of the artifact. -/
def shared (bytes : ByteArray) : Disk :=
  let file : Node := .file bytes { identity := 1 }
  { root := .dir [("T-abi.json", file), ("contracts", .dir [("T.sol", .dir [("T.json", file)])])] }

/-- The text of an interface is no artifact. -/
theorem read_abiText : ∃ fault, Artifact.read "[]" = .error fault := ⟨_, by cbv⟩

theorem sound_shared (bytes : ByteArray) : (shared bytes).root.Sound := by
  have order : ["T-abi.json", "contracts"].Pairwise (· < ·) := by decide
  have names : ∀ name ∈ ["T-abi.json", "contracts"],
      Disk.Path.IsName name ∧ Disk.Descends name ∧ Disk.FitsEntry name := by decide
  have file := Node.sound_file bytes { identity := 1 }
  refine Node.sound_dir order names ?_
  simp only [List.forall_mem_cons, List.not_mem_nil]
  exact ⟨file, Node.sound_single (by decide) (Node.sound_single (by decide) file), by simp⟩

end Sample

/-- A run whose first output is the artifact under another name succeeds and cannot be made again:
it writes the interface over the artifact, which then is none. -/
theorem run_again_shared :
    let s := Sample.settings ""
    let w : World := { disk := Sample.shared (Text.toBytes Sample.artifactText) }
    let first := run (Sample.leaving {}) s w
    let again := run (Sample.leaving {}) s first.2
    s.Within "" ∧ s.skipCompile = true ∧ w.disk.root.Unlinked ∧ w.disk.root.Ordered ∧
      (∃ x, first.1 = .ok x) ∧
      ∃ fault, again.1 = .error (.invalidArtifact Sample.artifactPath fault) := by
  intro s w first again
  obtain ⟨hfirst, hleft⟩ := Sample.run_writing (Sample.leaving {}) true w rfl rfl
    (Sample.writeOutput_shared rfl _) (by simp [Node.lookup_rewriteAll, List.lookup])
  -- the text of the interface is what the second run finds
  have hfile : first.2.disk.root.get? ["contracts", "T.sol", "T.json"] =
      some (.file (Text.toBytes "[]") { identity := 1 }) := by
    rw [hleft, Sample.get?_withTypescript (by decide), Node.get?_rewriteAll]
    simp [Node.get?_cons, Node.entries, List.lookup, Node.rewrite]
  obtain ⟨fault, hread⟩ := Sample.read_abiText
  have hstops : s.Stops first.2.disk (.invalidArtifact Sample.artifactPath fault) := by
    rw [hleft] at hfile ⊢
    exact stops_at_root hread Sample.conventional_contract Sample.names_artifactPath hfile
  have hagain := (@run_of_stops s _ (Sample.leaving {}) first.2 _ rfl rfl hstops).1
  have hsound := Sample.sound_shared (Text.toBytes Sample.artifactText)
  exact ⟨⟨rfl, by decide⟩, rfl, hsound.unlinked, hsound.ordered, ⟨_, hfirst⟩, fault, hagain⟩

end ContractBindings.Extraction
