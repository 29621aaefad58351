import ContractBindings.Proofs.Extraction.Writing
import Mathlib

/-!
# What a run changes

A run whose outputs go to a directory writes them to three places of their own. Nothing else on the
disk changes, but for directories that are made above the outputs.

1. `changes_of_writing`: what writing the outputs comes to.
2. `run_changes`: what a run does to the disk, whether it succeeds or not.
3. `run_changes_more`: a run may make a directory where an output was to go, and on a disk with
   links, second names or devices other files change, or an output is lost.
-/

namespace ContractBindings.Extraction

open Disk (Node)

variable {s : Settings} {directory : String} {d d' : Disk}

/-! ## What a run changes -/

/-- A path leads to a place, and a text can be read there. -/
def Holds (d : Disk) (path : String) (place : List String) (text : String) : Prop :=
  d.readText path = .ok text ∧ ∃ node, d.walk path .follow = .ok (.node place node)

/-- Apart from some places, a disk is as it was, but for directories that stand where nothing stood,
each at the end of one of some paths. -/
structure SameBut (written : List (List String)) (above : List String) (d d' : Disk) : Prop where
  here : d'.here = d.here
  clock : d'.clock = d.clock
  lastIdentity : d'.lastIdentity = d.lastIdentity
  elsewhere : ∀ place, place ∉ written → d'.look place = d.look place ∨
    (d.look place = none ∧ d'.look place = some (.dir []) ∧
      ∃ path ∈ above, ∃ node, d'.walk path .follow = .ok (.node place node))

theorem sameBut_of_progress {above : List String} {written : List (List String)}
    (hroot : d.root.Unlinked) (hsingle : ∀ p ∈ written, d.Single p)
    (h : Disk.Progress above written d d') : SameBut written above d d' where
  here := h.here
  clock := h.clock
  lastIdentity := h.lastIdentity
  elsewhere place hplace := by
    have helse (p : List String) (hp : p ∈ written) : ¬d.Touches p place := by
      intro htouch
      obtain rfl := hsingle p hp place htouch
      exact hplace hp
    refine (h.elsewhere place helse).imp_right ?_
    rintro ⟨hnone, hdir, path, hpath, node, hleads⟩
    exact ⟨hnone, hdir, path, hpath, node, (Disk.walk_follow_iff (h.unlinked hroot)).2 hleads⟩

/-- What was written to a path without a device can be read there. -/
theorem holds_of_stands {above : List String} {written : List (List String)} {path text : String}
    (hroot : d.root.Unlinked) (hprogress : Disk.Progress above written d d')
    (hdevice : ∀ device, d.look (d.place path) ≠ some (.device device))
    (h : d'.Stands path text) : Holds d' path (d.place path) text := by
  have hroot' := hprogress.unlinked hroot
  refine ⟨h.readText hroot' ?_, ?_⟩
  · rw [hprogress.place]
    exact hprogress.noDevice hdevice
  · obtain ⟨node, hleads, -⟩ := h.file
    rw [hprogress.place] at hleads
    exact ⟨node, (Disk.walk_follow_iff hroot').2 hleads⟩

/-- What writing the outputs comes to, where they have no device and no file with other names: all
of them hold their texts, or those before the one that fails. -/
theorem changes_of_writing (hs : s.Within directory) (hroot : d.root.Unlinked)
    (hsingle : ∀ o ∈ s.planned, d.Single (s.place d o))
    (hdevice : ∀ o ∈ s.planned, ∀ device, d.look (s.place d o) ≠ some (.device device))
    (artifact : Artifact) (interface : Abi.Interface) :
    let w := d.writeOutputs (s.texts artifact interface)
    let binding := (s.subject artifact interface).binding
    match w.failure with
    | none =>
      (∀ o ∈ s.planned, Holds w.disk (s.outputs.path o) (s.place d o) (o.text artifact binding)) ∧
        SameBut (s.planned.map (s.place d)) s.above d w.disk
    | some (path, _) =>
      ∃ before o after, s.planned = before ++ o :: after ∧ path = s.outputs.path o ∧
        (∀ b ∈ before, Holds w.disk (s.outputs.path b) (s.place d b) (b.text artifact binding)) ∧
        SameBut (before.map (s.place d)) s.above d w.disk := by
  intro w binding
  obtain ⟨hprogress, hstands⟩ := progress_texts hs.outputs hroot artifact interface
  have hstands := hstands (apart_of_single hs.outputs hsingle)
  have hend := Disk.writeOutputs_end d (s.texts artifact interface)
  have holds {o : Output} {text : String} (ho : o ∈ s.planned)
      (hdone : (s.outputs.path o, text) ∈ w.done) :
      Holds w.disk (s.outputs.path o) (s.place d o) text :=
    holds_of_stands hroot hprogress (hdevice o ho) (hstands _ hdone)
  cases hfailure : w.failure with
  | none =>
    have hdone : w.done = s.texts artifact interface := by
      rw [hfailure] at hend
      exact hend
    have hplaces : w.done.map (fun o => d.place o.1) = s.planned.map (s.place d) := by
      rw [hdone, places_texts]
    refine ⟨?_, sameBut_of_progress hroot (List.forall_mem_map.2 hsingle) (hplaces ▸ hprogress)⟩
    intro o ho
    refine holds ho ?_
    rw [hdone]
    exact List.mem_map_of_mem ho
  | some failure =>
    obtain ⟨failed, fault⟩ := failure
    rw [hfailure] at hend
    obtain ⟨text, rest, htexts⟩ := hend
    obtain ⟨before, others, hplanned, hdone, hothers⟩ := texts_split htexts
    obtain ⟨o, after, rfl, ho, -⟩ := List.map_eq_cons_iff.1 hothers.symm
    have hmem (b : Output) (hb : b ∈ before) : b ∈ s.planned :=
      hplanned ▸ List.mem_append_left _ hb
    have hplaces : w.done.map (fun o => d.place o.1) = before.map (s.place d) := by
      rw [hdone, List.map_map]
      rfl
    refine ⟨before, o, after, hplanned, (Prod.mk.inj ho).1.symm, ?_, ?_⟩
    · intro b hb
      refine holds (hmem b hb) ?_
      rw [hdone]
      exact List.mem_map_of_mem hb
    · exact sameBut_of_progress hroot
        (List.forall_mem_map.2 fun b hb => hsingle b (hmem b hb)) (hplaces ▸ hprogress)

/-! ## A small disk -/

namespace Sample

/-- An artifact of a contract that declares nothing. -/
def artifactText : String := "\x7b\"contractName\":\"T\",\"abi\":[]\x7d"

/-- The artifact with that text. -/
def artifact : Artifact := { contractName := "T", abi := .array [] }

/-- The directory in which compilers put it. -/
def contracts : Node := .dir [("T.sol", .dir [("T.json", .file (Text.toBytes artifactText))])]

/-- Where it is. -/
def artifactPath : String := "contracts/T.sol/T.json"

/-- The settings of a run that finds it, with its outputs in a directory. -/
def settings (directory : String) (skipCompile : Bool := true) : Settings :=
  { contract := "T"
    artifactsDir := ""
    outputs := OutputPaths.inDir directory "T"
    skipCompile
    emitModule := false }

theorem read_artifactText : Artifact.read artifactText = .ok artifact := by cbv

theorem interface_artifact : Abi.Interface.ofJson artifact.abi = .ok {} := by cbv

theorem pretty_abi : artifact.abi.pretty = "[]" := by cbv

theorem conventional_contract : Store.conventional ⟨""⟩ "T" =
    [artifactPath, "contracts/T.SOL/T.json", "contracts/T.sol/T.sol/T.json"] := by decide

theorem names_artifactPath : Disk.Names artifactPath ["contracts", "T.sol", "T.json"] := by decide

/-- A run finds the artifact wherever else the disk has something. -/
theorem finds (directory : String) (skip : Bool) {entries : List (String × Node)}
    {attributes : Disk.Attributes}
    (h : (Node.dir entries).get? ["contracts", "T.sol", "T.json"] =
      some (.file (Text.toBytes artifactText) attributes)) :
    (settings directory skip).Finds (Disk.atRoot entries) artifactPath artifact {} :=
  finds_at_root read_artifactText interface_artifact conventional_contract names_artifactPath h

/-- A disk with nothing but the artifact. -/
def disk : Disk := { root := .dir [("contracts", contracts)] }

/-- A disk with two nodes beside the artifact, the first where an output goes. -/
def beside (abi keep : Node) : Disk :=
  { root := .dir [("T-abi.json", abi), ("contracts", contracts), ("keep", keep)] }

theorem plain_contracts : contracts.Plain := by
  refine .dir ?_
  simp only [List.forall_mem_cons, List.not_mem_nil]
  refine ⟨.dir ?_, by simp⟩
  simp only [List.forall_mem_cons, List.not_mem_nil]
  exact ⟨.file rfl, by simp⟩

/-- Nothing can be made below the first output while there is nothing. -/
theorem createDir_blocked : disk.createDir "T-abi.json/.." = .error .notFound ∧
    disk.createDir "T-abi.json" = .ok (disk.put ["T-abi.json"] (.dir [])) := by
  have names : Disk.Path.names "T-abi.json/.." = ["T-abi.json", ".."] ∧
      Disk.Path.names "T-abi.json" = ["T-abi.json"] := by decide
  have refused : Disk.refused "T-abi.json/.." = none ∧ Disk.refused "T-abi.json" = none := by
    decide
  have start : Disk.start [] "T-abi.json/.." = [] ∧ Disk.start [] "T-abi.json" = [] := by decide
  have hhere : disk.here = [] := rfl
  have hroot : disk.root.get? [] = some (.dir [("contracts", contracts)]) := Node.get?_nil _
  have hvacant (atEnd : Disk.AtEnd) : Disk.walkFrom disk.root atEnd Disk.maxLinks []
      ["T-abi.json"] = .ok (.vacant [] "T-abi.json") :=
    Disk.walkFrom_vacancy (by decide) hroot (by simp [List.lookup])
  have hdirectory : disk.directoryOf "T-abi.json" = .ok [] := by
    rw [Disk.directoryOf, refused.2, names.2]
    simp only [hhere, start.2, List.dropLast, Disk.walkFrom, hroot, Node.isDir, if_true]
  constructor
  · rw [Disk.createDir, Disk.directoryOf, refused.1, names.1]
    simp only [hhere, start.1, List.dropLast, hvacant]
  · rw [Disk.createDir, hdirectory, names.2]
    simp only [List.getLast?_singleton, hvacant, Disk.makeNode, Disk.seal?, hroot, List.nil_append]

/-- The directory of the outputs begins with the name of the first one, which becomes a
directory. -/
theorem writeOutput_blocked (text : String) :
    disk.writeOutput "T-abi.json/../T-abi.json" text =
      (.error .isDirectory, disk.put ["T-abi.json"] (.dir [])) := by
  have parent : Disk.Path.parent? "T-abi.json/../T-abi.json" = some "T-abi.json/.." := by decide
  have ancestors : Disk.Path.ancestors "T-abi.json/.." = ["T-abi.json/..", "T-abi.json"] := by
    decide
  have steps : Disk.Path.steps "T-abi.json/.." = ["T-abi.json", ".."] ∧
      Disk.Path.steps "T-abi.json/../T-abi.json" = ["T-abi.json", "..", "T-abi.json"] := by decide
  have refused : Disk.refused "T-abi.json/.." = none ∧
      Disk.refused "T-abi.json/../T-abi.json" = none := by decide
  have start : Disk.start [] "T-abi.json/.." = [] ∧
      Disk.start [] "T-abi.json/../T-abi.json" = [] := by decide
  have hname : Disk.Descends "T-abi.json" ∧ Disk.FitsEntry "T-abi.json" := by decide
  have hplain : disk.root.Plain := .dir (by simpa using plain_contracts)
  obtain ⟨hgone, hnew⟩ := createDir_blocked
  generalize hmade : disk.put ["T-abi.json"] (.dir []) = made at hnew ⊢
  have hhere : made.here = [] := hmade ▸ rfl
  have hunlinked : made.root.Unlinked :=
    (Disk.progress_createDir hplain.unlinked (List.mem_singleton_self _) hnew).1.unlinked
      hplain.unlinked
  have hnode : made.root.get? ["T-abi.json"] = some (.dir []) :=
    hmade ▸ Node.get?_set_self (Node.holds_append (p := []) (Node.get?_nil _) "T-abi.json")
  obtain ⟨top, htop, htopDir⟩ : made.root.DirAt [] := @Disk.dirAt_of_get? _ [] _ _ hnode
  -- a path can go down to what was made, and up from there
  have hdown {rest : List String} {spot : Disk.Spot}
      (h : Disk.Leads made.root ["T-abi.json"] rest spot) :
      Disk.Leads made.root [] ("T-abi.json" :: rest) spot :=
    .down ⟨top, htop, htopDir⟩ hname.1 hname.2 hnode h
  have hup {rest : List String} {spot : Disk.Spot} (h : Disk.Leads made.root [] rest spot) :
      Disk.Leads made.root ["T-abi.json"] (".." :: rest) spot :=
    .up ⟨_, hnode, rfl⟩ h
  have hisDir : made.isDir "T-abi.json/.." = true := by
    refine (Disk.isDir_iff hunlinked).2 ⟨[], top, ⟨refused.1, ?_⟩, htopDir⟩
    rw [hhere, start.1, steps.1]
    exact hdown (hup (.arrive htop))
  have hagain := Disk.createDir_again hunlinked hisDir
  have hparent : disk.makeParent "T-abi.json/../T-abi.json" = (.ok (), made) := by
    rw [Disk.makeParent, parent]
    simp only [Disk.createDirAll, ancestors, Disk.createEach, hgone, hnew, hagain, hisDir, if_true]
  have hplace : made.filePlace "T-abi.json/../T-abi.json" = .error .isDirectory := by
    have hwalk : made.walk "T-abi.json/../T-abi.json" .write =
        .ok (.node ["T-abi.json"] (.dir [])) := by
      rw [Disk.walk, refused.2, hhere, start.2, steps.2]
      exact Disk.walkFrom_of_leads hunlinked (by decide) (hdown (hup (hdown (.arrive hnode))))
    simp only [Disk.filePlace, hwalk, Node.isDir, if_true]
  rw [Disk.writeOutput_eq, hparent]
  simp only [Disk.writeText, Disk.writeBytes, hplace, Except.bind]

theorem names_outputs :
    (Disk.Names "T-abi.json" ["T-abi.json"] ∧ Disk.HasNoParent "T-abi.json") ∧
      Disk.Names "T-interface.ts" ["T-interface.ts"] ∧ Disk.HasNoParent "T-interface.ts" := by
  decide

/-- A disk with the second output in the place of another file, or where nothing was. -/
def withTypescript (typescript : String) (entries : List (String × Node)) : Disk :=
  Disk.atRoot (Node.setEntry "T-interface.ts" (.file (Text.toBytes typescript)) entries)

theorem get?_withTypescript {name : String} (hname : name ≠ "T-interface.ts")
    (typescript : String) (entries : List (String × Node)) (rest : List String) :
    (withTypescript typescript entries).root.get? (name :: rest) =
      (Node.dir entries).get? (name :: rest) :=
  Node.get?_setEntry hname _ entries rest

theorem look_withTypescript {name : String} (hname : name ≠ "T-interface.ts")
    (typescript : String) (entries : List (String × Node)) :
    (withTypescript typescript entries).look [name] = (entries.lookup name).map Node.bare := by
  rw [Disk.look, get?_withTypescript hname]
  simp [Node.get?_cons, Node.entries]

theorem writeOutput_plain (old : ByteArray) (keep : Node) (text : String) :
    (beside (.file old) keep).writeOutput "T-abi.json" text =
      (.ok (), beside (.file (Text.toBytes text)) keep) :=
  Disk.writeOutput_plain names_outputs.1.1 names_outputs.1.2 (by simp) text

theorem writeOutput_linked (old : ByteArray) (text : String) :
    (beside (.link "keep") (.file old)).writeOutput "T-abi.json" text =
      (.ok (), beside (.link "keep") (.file (Text.toBytes text))) :=
  have hkeep : Disk.Names "keep" ["keep"] := by decide
  Disk.writeOutput_link names_outputs.1.1 hkeep names_outputs.1.2 rfl rfl text

theorem writeOutput_shared {entries : List (String × Node)} {old : ByteArray}
    (hentry : entries.lookup "T-abi.json" = some (.file old { identity := 1 })) (text : String) :
    (Disk.atRoot entries).writeOutput "T-abi.json" text =
      (.ok (), Disk.atRoot (Node.rewriteAll 1 0 (Text.toBytes text) entries)) :=
  Disk.writeOutput_shared names_outputs.1.1 names_outputs.1.2 hentry Nat.one_ne_zero text

theorem writeOutput_null (keep : Node) (text : String) :
    (beside (.device .null) keep).writeOutput "T-abi.json" text =
      (.ok (), beside (.device .null) keep) :=
  Disk.writeOutput_null names_outputs.1.1 names_outputs.1.2 rfl text

/-- A compiler that leaves a disk. -/
def leaving (d : Disk) : Compile.Compiler := fun _ _ => { result := .ok (), disk := d }

theorem paths_settings (skip : Bool) : (settings "" skip).outputs.path .abiJson = "T-abi.json" ∧
    (settings "" skip).outputs.path .typescript = "T-interface.ts" := by
  rw [show (settings "" skip).outputs = OutputPaths.inDir "" "T" from rfl]
  decide

/-- A run that finds the artifact succeeds where its first output can be written and there is
nothing yet where the second one goes. -/
theorem run_writing {entries entries' : List (String × Node)} {attributes : Disk.Attributes}
    (compiler : Compile.Compiler) (skip : Bool) (w : World)
    (hcompiled : compiled compiler (settings "" skip) w =
      { result := .ok (), disk := Disk.atRoot entries })
    (hfile : (Node.dir entries).get? ["contracts", "T.sol", "T.json"] =
      some (.file (Text.toBytes artifactText) attributes))
    (h : (Disk.atRoot entries).writeOutput "T-abi.json" "[]" = (.ok (), Disk.atRoot entries'))
    (hnew : entries'.lookup "T-interface.ts" = none) :
    let s := settings "" skip
    let r := run compiler s w
    r.1 = .ok (s.extracted artifactPath artifact {}) ∧
      r.2.disk = withTypescript (s.subject artifact {}).binding.typescript entries' := by
  intro s
  rw [← pretty_abi] at h
  exact run_of_two compiler w rfl (paths_settings skip) hcompiled (finds "" skip hfile) h
    names_outputs.2 (by simp [hnew])

/-- The output itself becomes a directory. -/
theorem run_blocked (compiler : Compile.Compiler) :
    let s := settings "T-abi.json/.."
    let r := run compiler s { disk }
    r.1 = .error (.persistenceFailed (s.outputs.path .abiJson) .isDirectory) ∧
      disk.look (s.place disk .abiJson) = none ∧
      r.2.disk.look (s.place disk .abiJson) = some (.dir []) := by
  intro s r
  have path : s.outputs.path .abiJson = "T-abi.json/../T-abi.json" := by decide
  have place : s.place disk .abiJson = ["T-abi.json"] := by
    have steps : Disk.Path.steps "T-abi.json/../T-abi.json" =
        ["T-abi.json", "..", "T-abi.json"] := by decide
    rw [Settings.place, Disk.place, path, steps]
    decide
  have hfinds : s.Finds disk artifactPath artifact {} :=
    finds _ true rfl
  have hcompiled : (compiled compiler s { disk }).result = .ok () := rfl
  obtain ⟨hresult, hdisk⟩ := run_of_finds hcompiled hfinds
  have htexts : s.texts artifact {} = ("T-abi.json/../T-abi.json", artifact.abi.pretty) ::
      [(s.outputs.path .typescript, (s.subject artifact {}).binding.typescript)] := by
    rw [← path]
    rfl
  have hleft : (compiled compiler s { disk }).disk = disk := rfl
  rw [hleft, htexts, Disk.writeOutputs, writeOutput_blocked] at hresult hdisk
  refine ⟨path ▸ hresult, ?_, ?_⟩
  · rw [place]
    simp [Disk.look, disk, Node.get?, Node.entries, List.lookup]
  · rw [place, hdisk]
    simp +decide [Disk.look, Disk.put, disk, Node.get?, Node.set, Node.setEntry, Node.insertEntry,
      Node.entries]

/-- The file to which a link leads changes. -/
theorem run_linked :
    let before := beside (.link "keep") (.file .empty)
    let r := run (leaving before) (settings "" false) { disk := {} }
    (∃ x, r.1 = .ok x) ∧ r.2.disk.look ["keep"] ≠ before.look ["keep"] := by
  intro before r
  obtain ⟨hresult, hdisk⟩ :=
    run_writing (leaving before) false { disk := {} } rfl rfl (writeOutput_linked .empty _) rfl
  refine ⟨⟨_, hresult⟩, ?_⟩
  rw [hdisk, look_withTypescript (by decide)]
  simp +decide [Disk.look, before, beside, Node.get?, Node.entries, List.lookup]

/-- The file changes that has the output for another name. -/
theorem run_shared :
    let before := beside (.file .empty { identity := 1 }) (.file .empty { identity := 1 })
    let r := run (leaving before) (settings "" false) { disk := {} }
    (∃ x, r.1 = .ok x) ∧ r.2.disk.look ["keep"] ≠ before.look ["keep"] := by
  intro before r
  obtain ⟨hresult, hdisk⟩ := run_writing (leaving before) false { disk := {} } rfl rfl
    (writeOutput_shared rfl _) (by simp [Node.lookup_rewriteAll, List.lookup])
  refine ⟨⟨_, hresult⟩, ?_⟩
  rw [hdisk, look_withTypescript (by decide)]
  simp +decide [Disk.look, before, beside, Node.get?, Node.entries, List.lookup, Node.rewriteAll,
    Node.rewrite]

/-- A device keeps nothing of the output. -/
theorem run_device :
    let before := beside (.device .null) (.file .empty)
    let r := run (leaving before) (settings "" false) { disk := {} }
    ∃ x, r.1 = .ok x ∧ r.2.disk.readText ((settings "" false).outputs.path .abiJson) ≠
      .ok (Output.abiJson.text x.artifact x.binding) := by
  intro before r
  obtain ⟨hresult, hdisk⟩ :=
    run_writing (leaving before) false { disk := {} } rfl rfl (writeOutput_null _ _) rfl
  refine ⟨_, hresult, ?_⟩
  have path : (settings "" false).outputs.path .abiJson = "T-abi.json" := by decide
  have hnode : r.2.disk.node "T-abi.json" = .ok (.device .null) := by
    rw [hdisk]
    exact Disk.node_below names_outputs.1.1 rfl (get?_withTypescript (by decide) _ _ []) (by simp)
  have hread : r.2.disk.readText "T-abi.json" = .ok "" := by
    simp +decide [Disk.readText, Disk.readBytes, hnode]
  rw [path, hread]
  intro hsame
  have hpretty : Output.abiJson.text artifact
      ((settings "" false).subject artifact {}).binding = "[]" := pretty_abi
  have := (Except.ok.inj hsame).trans hpretty
  revert this
  decide

theorem plain_beside : (beside (.file .empty) (.file .empty)).root.Plain := by
  refine .dir ?_
  simp only [List.forall_mem_cons, List.not_mem_nil]
  exact ⟨.file rfl, plain_contracts, .file rfl, by simp⟩

end Sample

/-! ## The disk after a run -/

/-- What a run does to the disk that its compiler leaves. It is a tree without links, and where the
outputs go it has no devices and no files with other names. -/
theorem run_changes (compiler : Compile.Compiler) (hs : s.Within directory) (w : World)
    (hroot : (compiled compiler s w).disk.root.Unlinked)
    (hsingle : ∀ o ∈ s.planned,
      (compiled compiler s w).disk.Single (s.place (compiled compiler s w).disk o))
    (hdevice : ∀ o ∈ s.planned, ∀ device,
      (compiled compiler s w).disk.look (s.place (compiled compiler s w).disk o) ≠
        some (.device device)) :
    let d := (compiled compiler s w).disk
    (s.planned.map (s.place d)).Nodup ∧
      match run compiler s w with
      | (.ok x, w') =>
        s.Finds d x.artifactPath x.artifact x.interface ∧
          x = s.extracted x.artifactPath x.artifact x.interface ∧
          (∀ o ∈ s.planned, Holds w'.disk (s.outputs.path o) (s.place d o)
            (o.text x.artifact x.binding)) ∧
          SameBut (s.planned.map (s.place d)) s.above d w'.disk
      | (.error (.persistenceFailed path _), w') =>
        ∃ artifactPath artifact interface before o after,
          s.Finds d artifactPath artifact interface ∧
          s.planned = before ++ o :: after ∧ path = s.outputs.path o ∧
          (∀ b ∈ before, Holds w'.disk (s.outputs.path b) (s.place d b)
            (b.text artifact (s.subject artifact interface).binding)) ∧
          SameBut (before.map (s.place d)) s.above d w'.disk
      | (.error _, w') => w'.disk = d := by
  intro d
  refine ⟨nodup_places hs.outputs d, ?_⟩
  rw [run_eq]
  simp only [outcome]
  cases hcompiled : (compiled compiler s w).result with
  | error failure => rfl
  | ok _ =>
    simp only
    rcases extract_cases s d with ⟨e, hresult, hdisk, hstage⟩ |
      ⟨path, artifact, interface, hfinds⟩
    · rw [hresult, hdisk]
      cases e with
      | persistenceFailed path fault => exact absurd rfl hstage
      | _ => rfl
    · -- all that changes the disk is the writing of the outputs
      obtain ⟨hresult, hdisk⟩ := extract_of_finds hfinds
      rw [hresult, hdisk]
      have hchanges :=
        @changes_of_writing s directory d hs hroot hsingle hdevice artifact interface
      cases hfailure : (d.writeOutputs (s.texts artifact interface)).failure with
      | none =>
        simp only [hfailure] at hchanges
        exact ⟨hfinds, rfl, hchanges⟩
      | some failure =>
        obtain ⟨failed, fault⟩ := failure
        simp only [hfailure] at hchanges
        obtain ⟨before, o, after, hchanges⟩ := hchanges
        exact ⟨path, artifact, interface, before, o, after, hfinds, hchanges⟩

/-- A run that writes over a file, next to another one. -/
theorem run_changes_beside :
    let s := Sample.settings "" false
    let before := Sample.beside (.file .empty) (.file .empty)
    let r := run (Sample.leaving before) s { disk := {} }
    ∃ x, r.1 = .ok x ∧
      (∀ o ∈ s.planned, Holds r.2.disk (s.outputs.path o) (s.place before o)
        (o.text x.artifact x.binding)) ∧
      SameBut (s.planned.map (s.place before)) s.above before r.2.disk := by
  intro s before r
  obtain ⟨hresult, -⟩ := Sample.run_writing (Sample.leaving before) false { disk := {} } rfl rfl
    (Sample.writeOutput_plain .empty _ _) rfl
  have hs : s.Within "" := ⟨rfl, by decide⟩
  have hplain := Sample.plain_beside
  have hchanges := (run_changes (Sample.leaving before) hs { disk := {} } hplain.unlinked
    (fun o _ => Disk.single_of_plain hplain _) fun o _ => Disk.look_ne_device hplain _).2
  refine ⟨_, hresult, ?_⟩
  have hr : run (Sample.leaving before) s { disk := {} } = (.ok _, r.2) := Prod.ext hresult rfl
  rw [hr] at hchanges
  exact hchanges.2.2

/-- A run changes more than the places of its outputs: the output that cannot be written may have
become a directory. After a compiler that made links, second names or devices, other files change
with the outputs, or an output does not hold its text. -/
theorem run_changes_more :
    (let s := Sample.settings "T-abi.json/.."
      let r := run (Sample.leaving {}) s { disk := Sample.disk }
      r.1 = .error (.persistenceFailed (s.outputs.path .abiJson) .isDirectory) ∧
        Sample.disk.look (s.place Sample.disk .abiJson) = none ∧
        r.2.disk.look (s.place Sample.disk .abiJson) = some (.dir [])) ∧
      (let before := Sample.beside (.link "keep") (.file .empty)
        let r := run (Sample.leaving before) (Sample.settings "" false) { disk := {} }
        (∃ x, r.1 = .ok x) ∧ r.2.disk.look ["keep"] ≠ before.look ["keep"]) ∧
      (let before := Sample.beside (.file .empty { identity := 1 }) (.file .empty { identity := 1 })
        let r := run (Sample.leaving before) (Sample.settings "" false) { disk := {} }
        (∃ x, r.1 = .ok x) ∧ r.2.disk.look ["keep"] ≠ before.look ["keep"]) ∧
      (let before := Sample.beside (.device .null) (.file .empty)
        let r := run (Sample.leaving before) (Sample.settings "" false) { disk := {} }
        ∃ x, r.1 = .ok x ∧ r.2.disk.readText ((Sample.settings "" false).outputs.path .abiJson) ≠
          .ok (Output.abiJson.text x.artifact x.binding)) :=
  ⟨Sample.run_blocked _, Sample.run_linked, Sample.run_shared, Sample.run_device⟩

end ContractBindings.Extraction
