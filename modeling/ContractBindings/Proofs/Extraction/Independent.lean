import ContractBindings.Proofs.Disk.Commute
import ContractBindings.Proofs.Extraction.Again
import ContractBindings.Proofs.Naming.Parameters

/-!
# Independent runs

Runs for different contracts can be made in either order. What one of them writes is not what the
other reads or writes, and the directories above the outputs are made, or not made, by whichever
comes first. All this holds as long as no file has several names that bring the runs together.

1. `output_ne`, `last_place_other`: the outputs of two contracts have different names, and none has
   the name of an artifact.
2. `load_beside`: a run that has written does not change what the other finds.
3. `extract_independent`, `run_independent`: the disk and the results do not depend on the order.
4. `run_independent_shared`: they do where an output of one run is another name of the artifact or
   of an output of the other.
-/

namespace ContractBindings.Extraction

open Disk (Node)
open Naming (isIdentifier not_mem_identifier)

variable {s t : Settings} {directory : String} {d d' : Disk}

/-! ## Names of outputs -/

theorem suffix_toList (o : Output) : ∃ rest, o.suffix.toList = '-' :: rest := by
  cases o <;> exact ⟨_, rfl⟩

/-- The name of an output tells its contract. -/
theorem output_ne {contract contract' : String} (h : isIdentifier contract = true)
    (h' : isIdentifier contract' = true) (hne : contract ≠ contract') (o o' : Output) :
    contract ++ o.suffix ≠ contract' ++ o'.suffix := by
  intro hsame
  obtain ⟨rest, ho⟩ := suffix_toList o
  obtain ⟨rest', ho'⟩ := suffix_toList o'
  have hlist := congrArg (fun name => name.toList.takeWhile (· != '-')) hsame
  have cut {name : String} (hname : isIdentifier name = true) (rest : List Char) :
      (name.toList ++ '-' :: rest).takeWhile (· != '-') = name.toList := by
    rw [List.takeWhile_append_of_pos]
    · simp
    · intro c hc
      have hnot : c ≠ '-' := fun hdash => not_mem_identifier hname (by decide) (hdash ▸ hc)
      simpa using hnot
  simp only [String.toList_append, ho, ho', cut h, cut h'] at hlist
  exact hne (String.toList_inj.1 hlist)

theorem last_place_other (hs : s.Within directory) (h : isIdentifier t.contract = true) (d : Disk)
    (o : Output) : (s.place d o).getLast? ≠ some (Store.fileName t.contract) := by
  rw [Settings.place, place_path hs, List.getLast?_concat]
  intro hsame
  -- only the name of the output has a dash
  obtain ⟨rest, ho⟩ := suffix_toList o
  have hlist := congrArg String.toList (Option.some.inj hsame)
  have hdash : '-' ∈ (Store.fileName t.contract).toList := by
    rw [← hlist, String.toList_append, ho]
    simp
  rw [Store.fileName, String.toList_append, List.mem_append] at hdash
  rcases hdash with hdash | hdash
  · exact not_mem_identifier h (by decide) hdash
  · revert hdash
    decide

theorem place_ne (hs : s.Within directory) (ht : t.Within directory)
    (h : isIdentifier s.contract = true) (h' : isIdentifier t.contract = true)
    (hne : s.contract ≠ t.contract) (d : Disk) (o o' : Output) : s.place d o ≠ t.place d o' := by
  rw [Settings.place, Settings.place, place_path hs, place_path ht]
  intro hsame
  rw [List.append_right_inj, List.cons.injEq] at hsame
  exact output_ne h h' hne o o' hsame.1

/-! ## Runs next to each other -/

/-- No output of a run is another name of an output of the other run, or of the file that the other
run finds as its artifact. -/
def Settings.ApartFrom (s t : Settings) (d : Disk) : Prop :=
  ∀ o ∈ s.planned,
    (∀ o' ∈ t.planned, ¬d.SameFile (s.place d o) (t.place d o')) ∧
      ∀ path, (Store.locate ⟨t.artifactsDir⟩ t.contract d).path = some path →
        ¬d.SameFile (s.place d o) (d.place path)

theorem apartFrom_of_plain (h : d.root.Plain) : s.ApartFrom t d :=
  fun _ _ => ⟨fun _ _ hsame => hsame.1 (Disk.identityAt_of_plain h _),
    fun _ _ hsame => hsame.1 (Disk.identityAt_of_plain h _)⟩

/-- Two runs come to the same, but for what the operating system says of an output that cannot be
written. -/
def SameResult : Except Error Extracted → Except Error Extracted → Prop
  | .error (.persistenceFailed path _), .error (.persistenceFailed path' _) => path = path'
  | result, result' => result = result'

theorem SameResult.of_ok {x : Extracted} {result : Except Error Extracted}
    (h : SameResult (.ok x) result) : result = .ok x := by
  cases result with
  | ok y => exact h.symm
  | error e => simp [SameResult] at h

theorem SameResult.refl (result : Except Error Extracted) : SameResult result result := by
  cases result with
  | ok x => rfl
  | error e => cases e <;> rfl

/-- Settings for two contracts of which the artifacts are there already, in one directory, and the
outputs go to one directory. -/
structure Settings.Beside (s t : Settings) (directory : String) : Prop where
  within : s.Within directory
  within' : t.Within directory
  artifactsDir : s.artifactsDir = t.artifactsDir
  skip : s.skipCompile = true
  skip' : t.skipCompile = true
  identifier : isIdentifier s.contract = true
  identifier' : isIdentifier t.contract = true
  contract : s.contract ≠ t.contract

theorem Settings.Beside.symm (h : s.Beside t directory) : t.Beside s directory where
  within := h.within'
  within' := h.within
  artifactsDir := h.artifactsDir.symm
  skip := h.skip'
  skip' := h.skip
  identifier := h.identifier'
  identifier' := h.identifier
  contract := h.contract.symm

/-- What a run finds, or does not find, is the same after a run for another contract has written. -/
theorem load_beside (h : s.Beside t directory) (hroot : d.root.Unlinked)
    (hordered : d.root.Ordered) (hnamed : d.root.Named) (hapart : s.ApartFrom t d) {path : String}
    {artifact : Artifact} {interface : Abi.Interface} (hfinds : s.Finds d path artifact interface) :
    (Store.load ⟨t.artifactsDir⟩ t.contract (extract s d).disk).1 =
      (Store.load ⟨t.artifactsDir⟩ t.contract d).1 := by
  rw [(extract_of_finds hfinds).2]
  obtain ⟨hprogress, -⟩ := progress_texts h.within.outputs hroot artifact interface
  have hplaces (place : List String)
      (hplace : place ∈ (d.writeOutputs (s.texts artifact interface)).done.map
        fun o => d.place o.1) :
      ∃ o ∈ s.planned, place = s.place d o := by
    obtain ⟨o, ho, rfl⟩ := List.mem_map.1 hplace
    have hmem := (Disk.done_writeOutputs d (s.texts artifact interface)).subset ho
    obtain ⟨output, houtput, rfl⟩ := List.mem_map.1 hmem
    exact ⟨output, houtput, rfl⟩
  refine Store.load_same hprogress hroot hordered hnamed ?_ h.within'.contract ?_ ?_
  · intro place hplace
    obtain ⟨o, -, rfl⟩ := hplaces place hplace
    exact last_place_other h.within h.identifier' d o
  · rw [← h.artifactsDir]
    exact Store.rooted_of_locate hroot h.within.contract (Store.load_iff.1 hfinds.1).1
  · intro found hfound place hplace
    obtain ⟨o, ho, rfl⟩ := hplaces place hplace
    exact (hapart o ho).2 found hfound

/-- All outputs stand next to each other. -/
theorem parent?_texts (hs : s.Within directory) (artifact : Artifact) (interface : Abi.Interface) :
    ∀ o ∈ s.texts artifact interface,
      Disk.EndsInName o.1 ∧ Disk.Path.parent? o.1 = Disk.Path.parentBelow directory := by
  intro o ho
  refine ⟨endsInName_texts hs.outputs artifact interface o ho, ?_⟩
  obtain ⟨output, -, rfl⟩ := List.mem_map.1 ho
  simp only
  rw [hs.outputs, path_inDir,
    Disk.Path.parent?_join (isName_output hs output) (descends_output s.contract output)]

theorem texts_ne_nil (s : Settings) (artifact : Artifact) (interface : Abi.Interface) :
    s.texts artifact interface ≠ [] := by
  simp [Settings.texts, Settings.planned]

/-- The outputs of two runs can be written in either order. -/
theorem writeOutputs_beside (h : s.Beside t directory) (hroot : d.root.Unlinked)
    (hordered : d.root.Ordered) (hapart : s.ApartFrom t d) (artifact artifact' : Artifact)
    (interface interface' : Abi.Interface) :
    let a := d.writeOutputs (s.texts artifact interface)
    let b := d.writeOutputs (t.texts artifact' interface')
    let ab := a.disk.writeOutputs (t.texts artifact' interface')
    let ba := b.disk.writeOutputs (s.texts artifact interface)
    ab.disk = ba.disk ∧ ab.failure.map Prod.fst = b.failure.map Prod.fst ∧
      ba.failure.map Prod.fst = a.failure.map Prod.fst := by
  refine Disk.writeOutputs_comm hroot hordered (texts_ne_nil s artifact interface)
    (texts_ne_nil t artifact' interface') (parent?_texts h.within artifact interface)
    (parent?_texts h.within' artifact' interface') ?_
  intro o ho p hp
  obtain ⟨output, houtput, rfl⟩ := List.mem_map.1 ho
  obtain ⟨output', houtput', rfl⟩ := List.mem_map.1 hp
  rintro (hsame | hsame)
  · exact place_ne h.within h.within' h.identifier h.identifier' h.contract d output output'
      hsame.symm
  · exact (hapart output houtput).1 output' houtput' hsame

/-! ## Either order -/

theorem sameResult_of_failure {w w' : Disk.Writing} (x : Extracted)
    (h : w.failure.map Prod.fst = w'.failure.map Prod.fst) :
    SameResult
      (match w.failure with
      | none => .ok x
      | some (path, fault) => .error (.persistenceFailed path fault))
      (match w'.failure with
      | none => .ok x
      | some (path, fault) => .error (.persistenceFailed path fault)) := by
  cases hw : w.failure with
  | none =>
    cases hw' : w'.failure with
    | none => rfl
    | some failure => simp [hw, hw'] at h
  | some failure =>
    cases hw' : w'.failure with
    | none => simp [hw, hw'] at h
    | some failure' => simpa [hw, hw', SameResult] using h

/-- Where one run stops before it writes, it does so too after the other. -/
theorem extract_stopped_beside (h : s.Beside t directory) (hroot : d.root.Unlinked)
    (hordered : d.root.Ordered) (hnamed : d.root.Named) (hapart : t.ApartFrom s d) {e : Error}
    (hstops : s.Stops d e) :
    extract t (extract s d).disk = extract t d ∧
      (extract s (extract t d).disk).result = (extract s d).result ∧
      (extract s (extract t d).disk).disk = (extract t d).disk := by
  obtain ⟨hresult, hdisk, -⟩ := extract_of_stops hstops
  rw [hdisk, hresult]
  rcases stops_or_finds t d with ⟨e', hstops'⟩ | ⟨path, artifact, interface, hfinds⟩
  · rw [(extract_of_stops hstops').2.1]
    exact ⟨rfl, hresult, hdisk⟩
  · have hload := load_beside h.symm hroot hordered hnamed hapart hfinds
    have hstops' : s.Stops (extract t d).disk e := by
      unfold Settings.Stops at hstops ⊢
      rwa [hload]
    obtain ⟨hresult', hdisk', -⟩ := extract_of_stops hstops'
    exact ⟨rfl, hresult', hdisk'⟩

/-- Two runs for different contracts come to the same in either order. -/
theorem extract_independent (h : s.Beside t directory) (hroot : d.root.Unlinked)
    (hordered : d.root.Ordered) (hnamed : d.root.Named) (hapart : s.ApartFrom t d)
    (hapart' : t.ApartFrom s d) :
    (extract t (extract s d).disk).disk = (extract s (extract t d).disk).disk ∧
      SameResult (extract s d).result (extract s (extract t d).disk).result ∧
      SameResult (extract t d).result (extract t (extract s d).disk).result := by
  rcases stops_or_finds s d with ⟨e, hstops⟩ | ⟨path, artifact, interface, hfinds⟩
  · obtain ⟨hother, hresult, hdisk⟩ :=
      extract_stopped_beside h hroot hordered hnamed hapart' hstops
    rw [hother, hresult, hdisk]
    exact ⟨rfl, .refl _, .refl _⟩
  rcases stops_or_finds t d with ⟨e, hstops⟩ | ⟨path', artifact', interface', hfinds'⟩
  · obtain ⟨hother, hresult, hdisk⟩ :=
      extract_stopped_beside h.symm hroot hordered hnamed hapart hstops
    rw [hother, hresult, hdisk]
    exact ⟨rfl, .refl _, .refl _⟩
  -- both have something to write
  have hload := load_beside h hroot hordered hnamed hapart hfinds
  have hload' := load_beside h.symm hroot hordered hnamed hapart' hfinds'
  have hlater : t.Finds (extract s d).disk path' artifact' interface' :=
    ⟨hload.trans hfinds'.1, hfinds'.2⟩
  have hlater' : s.Finds (extract t d).disk path artifact interface :=
    ⟨hload'.trans hfinds.1, hfinds.2⟩
  obtain ⟨hdisk, hfailure, hfailure'⟩ :=
    writeOutputs_beside h hroot hordered hapart artifact artifact' interface interface'
  rw [(extract_of_finds hlater).1, (extract_of_finds hlater).2, (extract_of_finds hlater').1,
    (extract_of_finds hlater').2, (extract_of_finds hfinds).1, (extract_of_finds hfinds).2,
    (extract_of_finds hfinds').1, (extract_of_finds hfinds').2]
  exact ⟨hdisk, sameResult_of_failure _ hfailure'.symm, sameResult_of_failure _ hfailure.symm⟩

/-- Runs for two contracts can be made in either order: the disk comes to be the same, and so does
what each of them has to show. The disk is a tree without symbolic links, and the runs do not meet
in files under several names. -/
theorem run_independent (compiler : Compile.Compiler) (h : s.Beside t directory) (w : World)
    (hroot : w.disk.root.Unlinked) (hordered : w.disk.root.Ordered) (hnamed : w.disk.root.Named)
    (hapart : s.ApartFrom t w.disk) (hapart' : t.ApartFrom s w.disk) :
    let first := run compiler s w
    let second := run compiler t first.2
    let first' := run compiler t w
    let second' := run compiler s first'.2
    second.2.disk = second'.2.disk ∧ SameResult first.1 second'.1 ∧
      SameResult first'.1 second.1 := by
  intro first second first' second'
  obtain ⟨hfirst, hleft⟩ := run_of_skip compiler h.skip w
  obtain ⟨hfirst', hleft'⟩ := run_of_skip compiler h.skip' w
  obtain ⟨hsecond, hend⟩ := run_of_skip compiler h.skip' first.2
  obtain ⟨hsecond', hend'⟩ := run_of_skip compiler h.skip first'.2
  rw [hleft] at hsecond hend
  rw [hleft'] at hsecond' hend'
  rw [hfirst, hfirst', hsecond, hsecond', hend, hend']
  exact extract_independent h hroot hordered hnamed hapart hapart'

/-! ## Two small contracts -/

namespace Sample

/-- An artifact of a contract with a function and an event. -/
def declaringText : String :=
  "\x7b\"contractName\":\"U\",\"abi\":[" ++
    "\x7b\"type\":\"function\",\"name\":\"f\",\"stateMutability\":\"view\"," ++
      "\"inputs\":[\x7b\"name\":\"a\",\"type\":\"uint8\"\x7d]\x7d," ++
    "\x7b\"type\":\"event\",\"name\":\"E\"," ++
      "\"inputs\":[\x7b\"name\":\"b\",\"type\":\"bool\"\x7d]\x7d]\x7d"

/-- The artifact with that text. -/
def declaring : Artifact where
  contractName := "U"
  abi := .array [
    .object [("type", .text "function"), ("name", .text "f"), ("stateMutability", .text "view"),
      ("inputs", .array [.object [("name", .text "a"), ("type", .text "uint8")]])],
    .object [("type", .text "event"), ("name", .text "E"),
      ("inputs", .array [.object [("name", .text "b"), ("type", .text "bool")]])]]

/-- Its interface. -/
def declared : Abi.Interface where
  functions := [
    { name := "f", inputs := [.mk "a" "uint8" none none []], stateMutability := some .view }]
  events := [{ name := "E", inputs := [.mk "b" "bool" none none []] }]

set_option maxRecDepth 20000 in
theorem read_declaringText : Artifact.read declaringText = .ok declaring := by cbv

theorem interface_declaring : Abi.Interface.ofJson declaring.abi = .ok declared := by cbv

theorem pretty_declaring : declaring.abi.pretty ≠ "[]" := by
  have hdiffer : (declaring.abi.pretty == "[]") = false := by cbv
  simpa using hdiffer

/-- The settings of a run for that contract. -/
def otherSettings : Settings :=
  { settings "" with contract := "U", outputs := OutputPaths.inDir "" "U" }

/-- The directory of a compiler with the artifacts of both contracts. -/
def bothContracts (attributes : Disk.Attributes) : Node :=
  .dir [("T.sol", .dir [("T.json", .file (Text.toBytes artifactText))]),
    ("U.sol", .dir [("U.json", .file (Text.toBytes declaringText) attributes)])]

/-- A disk with both artifacts, and what stands where outputs go. -/
def both (outputs : List (String × Node)) (attributes : Disk.Attributes) : Disk :=
  Disk.atRoot (outputs ++ [("contracts", bothContracts attributes)])

theorem settings_beside : (settings "").Beside otherSettings "" where
  within := ⟨rfl, by decide⟩
  within' := ⟨rfl, by decide⟩
  artifactsDir := rfl
  skip := rfl
  skip' := rfl
  identifier := by decide
  identifier' := by decide
  contract := by decide

/-- Where the artifact of the other contract is. -/
def otherPath : String := "contracts/U.sol/U.json"

theorem names_otherOutputs :
    (Disk.Names "U-abi.json" ["U-abi.json"] ∧ Disk.HasNoParent "U-abi.json") ∧
      Disk.Names "U-interface.ts" ["U-interface.ts"] ∧ Disk.HasNoParent "U-interface.ts" := by
  decide

theorem conventional_other : Store.conventional ⟨""⟩ "U" =
    [otherPath, "contracts/U.SOL/U.json", "contracts/U.sol/U.sol/U.json"] := by decide

theorem names_otherPath : Disk.Names otherPath ["contracts", "U.sol", "U.json"] := by decide

theorem finds_other {entries : List (String × Node)} {attributes : Disk.Attributes}
    (h : (Node.dir entries).get? ["contracts", "U.sol", "U.json"] =
      some (.file (Text.toBytes declaringText) attributes)) :
    otherSettings.Finds (Disk.atRoot entries) otherPath declaring declared :=
  finds_at_root read_declaringText interface_declaring conventional_other names_otherPath h

/-- A run for the other contract succeeds where its first output can be written and there is nothing
yet where the second one goes. -/
theorem run_other {entries entries' : List (String × Node)} {attributes : Disk.Attributes}
    (compiler : Compile.Compiler) (w : World) (hdisk : w.disk = Disk.atRoot entries)
    (hfile : (Node.dir entries).get? ["contracts", "U.sol", "U.json"] =
      some (.file (Text.toBytes declaringText) attributes))
    (h : (Disk.atRoot entries).writeOutput "U-abi.json" declaring.abi.pretty =
      (.ok (), Disk.atRoot entries'))
    (hnew : entries'.lookup "U-interface.ts" = none) :
    let r := run compiler otherSettings w
    r.1 = .ok (otherSettings.extracted otherPath declaring declared) ∧
      r.2.disk = Disk.atRoot (Node.setEntry "U-interface.ts" (.file (Text.toBytes
        (otherSettings.subject declaring declared).binding.typescript)) entries') := by
  have paths : otherSettings.outputs.path .abiJson = "U-abi.json" ∧
      otherSettings.outputs.path .typescript = "U-interface.ts" := by
    rw [show otherSettings.outputs = OutputPaths.inDir "" "U" from rfl]
    decide
  have hcompiled : compiled compiler otherSettings w =
      { result := .ok (), disk := Disk.atRoot entries } := by rw [← hdisk]; rfl
  exact run_of_two compiler w rfl paths hcompiled (finds_other hfile) h names_otherOutputs.2
    (by simp [hnew])

theorem sound_both {outputs : List (String × Node)} (attributes : Disk.Attributes)
    (hkeys : (outputs.map Prod.fst ++ ["contracts"]).Pairwise (· < ·))
    (hnames : ∀ name ∈ outputs.map Prod.fst ++ ["contracts"],
      Disk.Path.IsName name ∧ Disk.Descends name ∧ Disk.FitsEntry name)
    (hfiles : ∀ e ∈ outputs, ∃ bytes attributes, e.2 = .file bytes attributes) :
    (both outputs attributes).root.Sound := by
  have hcontracts : (bothContracts attributes).Sound := by
    have order : ["T.sol", "U.sol"].Pairwise (· < ·) := by decide
    have names : ∀ name ∈ ["T.sol", "U.sol"],
        Disk.Path.IsName name ∧ Disk.Descends name ∧ Disk.FitsEntry name := by decide
    refine Node.sound_dir order names ?_
    simp only [List.forall_mem_cons, List.not_mem_nil]
    exact ⟨Node.sound_single (by decide) (Node.sound_file _ _),
      Node.sound_single (by decide) (Node.sound_file _ _), by simp⟩
  refine Node.sound_dir (by simpa using hkeys) (by simpa using hnames) ?_
  intro e he
  rcases List.mem_append.1 he with he | he
  · obtain ⟨bytes, attributes, hfile⟩ := hfiles e he
    exact hfile ▸ Node.sound_file bytes attributes
  · exact List.mem_singleton.1 he ▸ hcontracts

theorem plain_both : (both [] {}).root.Plain := by
  refine .dir (List.forall_mem_singleton.2 (.dir ?_))
  simp only [List.forall_mem_cons, List.not_mem_nil]
  exact ⟨.dir (List.forall_mem_singleton.2 (.file rfl)),
    .dir (List.forall_mem_singleton.2 (.file rfl)), by simp⟩

end Sample

/-- Two runs that both write, in either order. -/
theorem run_independent_beside :
    let s := Sample.settings ""
    let t := Sample.otherSettings
    let w : World := { disk := Sample.both [] {} }
    let first := run (Sample.leaving {}) s w
    let second := run (Sample.leaving {}) t first.2
    let first' := run (Sample.leaving {}) t w
    let second' := run (Sample.leaving {}) s first'.2
    (∃ x y, first.1 = .ok x ∧ second.1 = .ok y ∧ first'.1 = .ok y ∧ second'.1 = .ok x) ∧
      second.2.disk = second'.2.disk := by
  intro s t w first second first' second'
  have hnone (name : String) (hname : name ≠ "contracts") (node : Node)
      (hnode : [("contracts", Sample.bothContracts {})].lookup name = some node) :
      ∃ bytes, node = .file bytes := by simp [Node.lookup_cons_ite, hname] at hnode
  obtain ⟨⟨hs, hsParent⟩, -⟩ := Sample.names_outputs
  obtain ⟨⟨ht, htParent⟩, -⟩ := Sample.names_otherOutputs
  obtain ⟨hfirst, -⟩ := Sample.run_writing (Sample.leaving {}) true w rfl rfl
    (Disk.writeOutput_plain hs hsParent (hnone _ (by decide)) "[]")
    (by simp [Node.lookup_setEntry, Node.lookup_cons_ite])
  obtain ⟨hfirst', -⟩ := Sample.run_other (Sample.leaving {}) w rfl rfl
    (Disk.writeOutput_plain ht htParent (hnone _ (by decide)) Sample.declaring.abi.pretty)
    (by simp [Node.lookup_setEntry, Node.lookup_cons_ite])
  have hsound : w.disk.root.Sound := Sample.sound_both {} (by decide) (by decide) (by simp)
  have hplain : w.disk.root.Plain := Sample.plain_both
  obtain ⟨hdisk, hsame, hsame'⟩ := run_independent (Sample.leaving {}) Sample.settings_beside w
    hsound.unlinked hsound.ordered hsound.named (apartFrom_of_plain hplain)
    (apartFrom_of_plain hplain)
  rw [hfirst] at hsame
  rw [hfirst'] at hsame'
  exact ⟨⟨_, _, hfirst, hsame'.of_ok, hfirst', hsame.of_ok⟩, hdisk⟩

/-! ## Runs that meet in a file -/

namespace Sample

/-- A disk where an output of one run is another name of what the other one finds. -/
def outputIsArtifact : Disk :=
  both [("T-abi.json", .file (Text.toBytes declaringText) { identity := 1 })] { identity := 1 }

/-- A disk where outputs of both runs are names of one file. -/
def outputsAreOne : Disk :=
  both [("T-abi.json", .file .empty { identity := 1 }),
    ("U-abi.json", .file .empty { identity := 1 })] {}

/-- The entries of its root. -/
def namesOfOne : List (String × Node) :=
  [("T-abi.json", .file .empty { identity := 1 }), ("U-abi.json", .file .empty { identity := 1 }),
    ("contracts", bothContracts {})]

theorem sound_outputIsArtifact : outputIsArtifact.root.Sound := by
  have hfiles : ∀ e ∈ [("T-abi.json", Node.file (Text.toBytes declaringText) { identity := 1 })],
      ∃ bytes attributes, e.2 = .file bytes attributes := by simp
  have order : ["T-abi.json", "contracts"].Pairwise (· < ·) := by decide
  have names : ∀ name ∈ ["T-abi.json", "contracts"],
      Disk.Path.IsName name ∧ Disk.Descends name ∧ Disk.FitsEntry name := by decide
  exact sound_both _ order names hfiles

theorem sound_outputsAreOne : outputsAreOne.root.Sound := by
  have hfiles : ∀ e ∈ [("T-abi.json", Node.file .empty { identity := 1 }),
      ("U-abi.json", Node.file .empty { identity := 1 })],
      ∃ bytes attributes, e.2 = .file bytes attributes := by simp
  have order : ["T-abi.json", "U-abi.json", "contracts"].Pairwise (· < ·) := by decide
  have names : ∀ name ∈ ["T-abi.json", "U-abi.json", "contracts"],
      Disk.Path.IsName name ∧ Disk.Descends name ∧ Disk.FitsEntry name := by decide
  exact sound_both _ order names hfiles

/-- The other run succeeds, unless the first one has written the interface over its artifact. -/
theorem run_outputIsArtifact :
    let w : World := { disk := outputIsArtifact }
    (∃ y, (run (leaving {}) otherSettings w).1 = .ok y) ∧
      ∃ fault, (run (leaving {}) otherSettings (run (leaving {}) (settings "") w).2).1 =
        .error (.invalidArtifact otherPath fault) := by
  intro w
  obtain ⟨⟨ht, htParent⟩, -⟩ := names_otherOutputs
  obtain ⟨halone, -⟩ := run_other (leaving {}) w rfl rfl
    (Disk.writeOutput_plain ht htParent (by simp [List.lookup]) declaring.abi.pretty)
    (by simp [Node.lookup_setEntry, List.lookup])
  obtain ⟨-, hleft⟩ := run_writing (leaving {}) true w rfl rfl (writeOutput_shared rfl _)
    (by simp [Node.lookup_rewriteAll, List.lookup])
  have hfile : (run (leaving {}) (settings "") w).2.disk.root.get?
      ["contracts", "U.sol", "U.json"] =
        some (.file (Text.toBytes "[]") { identity := 1 }) := by
    rw [hleft, get?_withTypescript (by decide), Node.get?_rewriteAll]
    simp [Node.get?_cons, Node.entries, List.lookup, Node.rewrite, bothContracts]
  obtain ⟨fault, hread⟩ := read_abiText
  have hstops : otherSettings.Stops (run (leaving {}) (settings "") w).2.disk
      (.invalidArtifact otherPath fault) := by
    rw [hleft] at hfile ⊢
    exact stops_at_root hread conventional_other names_otherPath hfile
  exact ⟨⟨_, halone⟩, fault, (run_of_stops rfl rfl hstops).1⟩

theorem writeOutput_sharedOther {entries : List (String × Node)} {old : ByteArray}
    (hentry : entries.lookup "U-abi.json" = some (.file old { identity := 1 })) (text : String) :
    (Disk.atRoot entries).writeOutput "U-abi.json" text =
      (.ok (), Disk.atRoot (Node.rewriteAll 1 0 (Text.toBytes text) entries)) :=
  Disk.writeOutput_shared names_otherOutputs.1.1 names_otherOutputs.1.2 hentry Nat.one_ne_zero text

/-- What a run leaves of that disk that writes a text to the file, and another one to a new file. -/
def writtenOnce (name text other : String) : List (String × Node) :=
  Node.setEntry name (.file (Text.toBytes other))
    (Node.rewriteAll 1 0 (Text.toBytes text) namesOfOne)

theorem get?_writtenOnce {name k : String} (hk : k ≠ name) (text other : String)
    (rest : List String) :
    (Node.dir (writtenOnce name text other)).get? (k :: rest) =
      ((Node.dir namesOfOne).get? (k :: rest)).map (Node.rewrite 1 0 (Text.toBytes text)) := by
  rw [writtenOnce, Node.get?_setEntry hk, Node.get?_rewriteAll]

theorem lookup_writtenOnce {name k : String} (hk : k ≠ name) (text other : String) :
    (writtenOnce name text other).lookup k =
      (namesOfOne.lookup k).map (Node.rewrite 1 0 (Text.toBytes text)) := by
  rw [writtenOnce, Node.lookup_setEntry, if_neg hk, Node.lookup_rewriteAll]

/-- A file that outputs of both runs name holds the interface of the run that was made last. -/
theorem last_other :
    (run (leaving {}) otherSettings
        (run (leaving {}) (settings "") { disk := outputsAreOne }).2).2.disk.root.get?
      ["T-abi.json"] = some (.file (Text.toBytes declaring.abi.pretty) { identity := 1 }) := by
  obtain ⟨-, hleft⟩ := run_writing (leaving {}) true { disk := outputsAreOne } rfl rfl
    (writeOutput_shared rfl _) (by simp [Node.lookup_rewriteAll, List.lookup])
  generalize ((settings "").subject artifact {}).binding.typescript = typescript at hleft
  have hfile : (Node.dir (writtenOnce "T-interface.ts" "[]" typescript)).get?
      ["contracts", "U.sol", "U.json"] = some (.file (Text.toBytes declaringText)) := by
    rw [get?_writtenOnce (by decide)]
    simp [namesOfOne, Node.get?_cons, Node.entries, List.lookup, Node.rewrite, bothContracts]
  have hentry : (writtenOnce "T-interface.ts" "[]" typescript).lookup "U-abi.json" =
      some (.file (Text.toBytes "[]") { identity := 1 }) := by
    rw [lookup_writtenOnce (by decide)]
    simp [namesOfOne, List.lookup, Node.rewrite]
  have hnew : (writtenOnce "T-interface.ts" "[]" typescript).lookup "U-interface.ts" = none := by
    rw [lookup_writtenOnce (by decide)]
    simp [namesOfOne, List.lookup]
  obtain ⟨-, hend⟩ := run_other (leaving {}) _ hleft hfile (writeOutput_sharedOther hentry _)
    (by rw [Node.lookup_rewriteAll, hnew]; rfl)
  rw [hend, Disk.atRoot, Node.get?_setEntry (by decide), Node.get?_rewriteAll,
    get?_writtenOnce (by decide)]
  simp [namesOfOne, Node.get?_cons, Node.entries, Node.rewrite]

theorem last_first :
    (run (leaving {}) (settings "")
        (run (leaving {}) otherSettings { disk := outputsAreOne }).2).2.disk.root.get?
      ["T-abi.json"] = some (.file (Text.toBytes "[]") { identity := 1 }) := by
  obtain ⟨-, hleft⟩ := run_other (leaving {}) { disk := outputsAreOne } rfl rfl
    (writeOutput_sharedOther rfl _) (by simp [Node.lookup_rewriteAll, List.lookup])
  generalize (otherSettings.subject declaring declared).binding.typescript = typescript at hleft
  have hfile : (Node.dir (writtenOnce "U-interface.ts" declaring.abi.pretty typescript)).get?
      ["contracts", "T.sol", "T.json"] = some (.file (Text.toBytes artifactText)) := by
    rw [get?_writtenOnce (by decide)]
    simp [namesOfOne, Node.get?_cons, Node.entries, List.lookup, Node.rewrite, bothContracts]
  have hentry : (writtenOnce "U-interface.ts" declaring.abi.pretty typescript).lookup "T-abi.json" =
      some (.file (Text.toBytes declaring.abi.pretty) { identity := 1 }) := by
    rw [lookup_writtenOnce (by decide)]
    simp [namesOfOne, Node.rewrite]
  have hnew : (writtenOnce "U-interface.ts" declaring.abi.pretty typescript).lookup
      "T-interface.ts" = none := by
    rw [lookup_writtenOnce (by decide)]
    simp [namesOfOne, List.lookup]
  obtain ⟨-, hend⟩ := run_writing (leaving {}) true _ (by rw [compiled, hleft]; rfl) hfile
    (writeOutput_shared hentry _) (by rw [Node.lookup_rewriteAll, hnew]; rfl)
  rw [hend, get?_withTypescript (by decide), Node.get?_rewriteAll, get?_writtenOnce (by decide)]
  simp [namesOfOne, Node.get?_cons, Node.entries, Node.rewrite]

end Sample

/-- Runs are not independent where they meet in a file. Where an output of one run is another name
of the artifact that the other run finds, that run succeeds before it and fails after it. Where
outputs of both are names of one file, it holds what was written last. -/
theorem run_independent_shared :
    let s := Sample.settings ""
    let t := Sample.otherSettings
    s.Beside t "" ∧
      (let w : World := { disk := Sample.outputIsArtifact }
        let second := run (Sample.leaving {}) t (run (Sample.leaving {}) s w).2
        let first' := run (Sample.leaving {}) t w
        w.disk.root.Sound ∧ (∃ y, first'.1 = .ok y) ∧
          (∃ fault, second.1 = .error (.invalidArtifact Sample.otherPath fault)) ∧
          ¬SameResult first'.1 second.1) ∧
      (let w : World := { disk := Sample.outputsAreOne }
        let second := run (Sample.leaving {}) t (run (Sample.leaving {}) s w).2
        let second' := run (Sample.leaving {}) s (run (Sample.leaving {}) t w).2
        w.disk.root.Sound ∧ second.2.disk ≠ second'.2.disk) := by
  intro s t
  refine ⟨Sample.settings_beside, ?_, ?_⟩
  · intro w second first'
    obtain ⟨⟨y, hfirst⟩, fault, hsecond⟩ := Sample.run_outputIsArtifact
    refine ⟨Sample.sound_outputIsArtifact, ⟨y, hfirst⟩, ⟨fault, hsecond⟩, ?_⟩
    intro hsame
    rw [show first'.1 = .ok y from hfirst, show second.1 = .error _ from hsecond] at hsame
    exact absurd hsame.of_ok (by simp)
  · intro w second second'
    refine ⟨Sample.sound_outputsAreOne, fun hdisk => ?_⟩
    have hlast := Sample.last_other.symm.trans
      ((congrArg (fun d : Disk => d.root.get? ["T-abi.json"]) hdisk).trans Sample.last_first)
    have hbytes := (Node.file.inj (Option.some.inj hlast)).1
    have htext := congrArg Text.ofBytes? hbytes
    rw [Disk.ofBytes?_toBytes, Disk.ofBytes?_toBytes, Option.some.injEq] at htext
    exact Sample.pretty_declaring htext

end ContractBindings.Extraction
