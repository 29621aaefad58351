import ContractBindings.Proofs.Disk.Entry
import ContractBindings.Proofs.Extraction.Transitions
import ContractBindings.Proofs.Store.Locate

/-!
# Writing the outputs of a run

A run whose outputs go to a directory writes them to places of their own there, once it has found
its artifact.

1. `path_outputs`, `nodup_places`: the outputs go to different places of one directory.
2. `progress_texts`, `files_of_written`: what writing the outputs does to a disk.
3. `stops_or_finds`, `run_of_finds`: a run finds an artifact and writes, or leaves the disk alone.
-/

namespace ContractBindings.Extraction

open Disk (Node)

/-! ## The places of the outputs -/

/-- What the name of an output ends in. -/
def Output.suffix : Output → String
  | .abiJson => "-abi.json"
  | .typescript => "-interface.ts"
  | .module => "-abi.js"

theorem path_inDir (directory contract : String) (o : Output) :
    (OutputPaths.inDir directory contract).path o =
      Disk.Path.join directory (contract ++ o.suffix) := by
  cases o <;> rfl

/-- The outputs go to a directory, under names that the contract gives them. -/
structure Settings.Within (s : Settings) (directory : String) : Prop where
  outputs : s.outputs = OutputPaths.inDir directory s.contract
  contract : '/' ∉ s.contract.toList

variable {s : Settings} {directory : String} {d d' : Disk}

theorem isName_suffix (o : Output) : Disk.Path.IsName o.suffix := by
  cases o <;> exact ⟨by decide, by decide⟩

theorem isName_output (hs : s.Within directory) (o : Output) :
    Disk.Path.IsName (s.contract ++ o.suffix) :=
  Disk.Path.isName_append hs.contract (isName_suffix o)

theorem descends_output (contract : String) (o : Output) : Disk.Descends (contract ++ o.suffix) :=
  Disk.descends_append contract (by cases o <;> decide)

/-- All outputs have one path before what their names end in, also where the contract is no
name. -/
theorem path_outputs (hs : s.outputs = OutputPaths.inDir directory s.contract) (o : Output) :
    s.outputs.path o = Disk.Path.join directory s.contract ++ o.suffix := by
  rw [hs, path_inDir, Disk.Path.join_append _ _ (isName_suffix o)]

theorem endsInName_path (hs : s.outputs = OutputPaths.inDir directory s.contract) (o : Output) :
    Disk.EndsInName (s.outputs.path o) := by
  obtain ⟨above, tip, hempty, hsteps⟩ :=
    Disk.Path.steps_suffix (Disk.Path.join directory s.contract)
  rw [path_outputs hs]
  exact ⟨above, tip ++ o.suffix, hsteps _ (isName_suffix o), hempty, descends_output tip o⟩

/-- An output goes to the directory, wherever that is, under its own name. -/
theorem place_path (hs : s.Within directory) (d : Disk) (o : Output) :
    d.place (s.outputs.path o) =
      Disk.resolve (Disk.start d.here directory) (Disk.Path.names directory) ++
        [s.contract ++ o.suffix] := by
  rw [hs.outputs, path_inDir, Disk.place_join (isName_output hs o) (descends_output s.contract o)]

theorem suffix_injective {contract : String} {o o' : Output}
    (h : contract ++ o.suffix = contract ++ o'.suffix) : o = o' := by
  have hlist := congrArg String.toList h
  rw [String.toList_append, String.toList_append, List.append_cancel_left_eq] at hlist
  revert hlist
  cases o <;> cases o' <;> decide

/-- The place of an output on a disk. -/
def Settings.place (s : Settings) (d : Disk) (o : Output) : List String :=
  d.place (s.outputs.path o)

/-- Different outputs go to different places. -/
theorem nodup_places (hs : s.outputs = OutputPaths.inDir directory s.contract) (d : Disk) :
    (s.planned.map (s.place d)).Nodup := by
  obtain ⟨above, tip, hplace⟩ := Disk.place_suffix (Disk.Path.join directory s.contract) d
  have hplanned : s.planned.Nodup := by
    unfold Settings.planned
    cases s.emitModule <;> decide
  refine List.Pairwise.map _ ?_ hplanned
  intro o o' hne h
  refine hne (@suffix_injective tip o o' ?_)
  have hlong (o : Output) : 3 ≤ o.suffix.length := by cases o <;> decide
  rwa [Settings.place, Settings.place, path_outputs hs, path_outputs hs,
    hplace _ (isName_suffix o) (hlong o), hplace _ (isName_suffix o') (hlong o'),
    List.append_right_inj, List.singleton_inj] at h

/-- Outputs whose files have no other names share no file. -/
theorem apart_of_single (hs : s.outputs = OutputPaths.inDir directory s.contract)
    (hsingle : ∀ o ∈ s.planned, d.Single (s.place d o)) :
    s.planned.Pairwise fun o o' => ¬d.Touches (s.place d o') (s.place d o) := by
  have hnodup := nodup_places hs d
  rw [List.Nodup, List.pairwise_map] at hnodup
  refine hnodup.imp_of_mem ?_
  intro o o' _ ho' hne htouch
  exact hne (hsingle o' ho' _ htouch)

/-! ## Writing the outputs -/

/-- The paths that are made directories, where they are missing, before an output is written. -/
def Settings.above (s : Settings) : List String :=
  s.planned.flatMap fun o => Disk.pathsAbove (s.outputs.path o)

theorem endsInName_texts (hs : s.outputs = OutputPaths.inDir directory s.contract)
    (artifact : Artifact) (interface : Abi.Interface) :
    ∀ o ∈ s.texts artifact interface, Disk.EndsInName o.1 := by
  intro o ho
  obtain ⟨output, -, rfl⟩ := List.mem_map.1 ho
  exact endsInName_path hs output

theorem texts_without_module (hmodule : s.emitModule = false) (artifact : Artifact)
    (interface : Abi.Interface) :
    s.texts artifact interface = [(s.outputs.path .abiJson, artifact.abi.pretty),
      (s.outputs.path .typescript, (s.subject artifact interface).binding.typescript)] := by
  rw [Settings.texts, Settings.planned, hmodule]
  rfl

theorem above_texts (artifact : Artifact) (interface : Abi.Interface) :
    ∀ o ∈ s.texts artifact interface, Disk.pathsAbove o.1 ⊆ s.above := by
  intro o ho
  obtain ⟨output, houtput, rfl⟩ := List.mem_map.1 ho
  exact fun _ hp => List.mem_flatMap.2 ⟨output, houtput, hp⟩

theorem places_texts (d : Disk) (artifact : Artifact) (interface : Abi.Interface) :
    (s.texts artifact interface).map (fun o => d.place o.1) = s.planned.map (s.place d) := by
  rw [Settings.texts, List.map_map]
  rfl

/-- Writing the outputs changes nothing but the outputs and directories above them. They stand
afterwards if they share no file. -/
theorem progress_texts (hs : s.outputs = OutputPaths.inDir directory s.contract)
    (hroot : d.root.Unlinked) (artifact : Artifact) (interface : Abi.Interface) :
    let w := d.writeOutputs (s.texts artifact interface)
    Disk.Progress s.above (w.done.map fun o => d.place o.1) d w.disk ∧
      ((s.planned.Pairwise fun o o' => ¬d.Touches (s.place d o') (s.place d o)) →
        ∀ o ∈ w.done, w.disk.Stands o.1 o.2) := by
  intro w
  obtain ⟨hprogress, -, hstands⟩ := Disk.progress_writeOutputs hroot
    (endsInName_texts hs artifact interface) (above_texts artifact interface)
  refine ⟨hprogress, fun hapart => hstands ?_⟩
  rw [Settings.texts, List.pairwise_map]
  exact hapart

/-- Nothing stands in the way of telling the outputs apart on a disk: it has no links, no output
goes to a device, and no two outputs go to names of one file. -/
structure Settings.Clear (s : Settings) (d : Disk) : Prop where
  unlinked : d.root.Unlinked
  device : ∀ o ∈ s.planned, ∀ device, d.look (s.place d o) ≠ some (.device device)
  apart : s.planned.Pairwise fun o o' => ¬d.SameFile (s.place d o) (s.place d o')

theorem clear_of_plain (s : Settings) (h : d.root.Plain) : s.Clear d where
  unlinked := h.unlinked
  device _ _ := Disk.look_ne_device h _
  apart := List.pairwise_of_forall fun _ _ hsame => hsame.1 (Disk.identityAt_of_plain h _)

theorem apart_of_clear (hs : s.outputs = OutputPaths.inDir directory s.contract)
    (h : s.Clear d) :
    s.planned.Pairwise fun o o' => ¬d.Touches (s.place d o') (s.place d o) := by
  have hnodup := nodup_places hs d
  rw [List.Nodup, List.pairwise_map] at hnodup
  refine (hnodup.and h.apart).imp ?_
  rintro o o' ⟨hne, hapart⟩ (heq | hsame)
  · exact hne heq
  · exact hapart ⟨hsame.2 ▸ hsame.1, hsame.2.symm⟩

/-- Outputs that were all written, on a disk where they can be told apart, are files that hold their
texts. -/
theorem files_of_written (hs : s.outputs = OutputPaths.inDir directory s.contract)
    (hclear : s.Clear d) {artifact : Artifact} {interface : Abi.Interface}
    (hwritten : (d.writeOutputs (s.texts artifact interface)).failure = none) :
    ∀ o ∈ s.planned, ∃ attributes,
      (d.writeOutputs (s.texts artifact interface)).disk.node (s.outputs.path o) =
        .ok (.file (Text.toBytes (o.text artifact (s.subject artifact interface).binding))
          attributes) := by
  intro o ho
  obtain ⟨hprogress, hstands⟩ := progress_texts hs hclear.unlinked artifact interface
  have hend := Disk.writeOutputs_end d (s.texts artifact interface)
  rw [hwritten] at hend
  have hdone : (s.outputs.path o, o.text artifact (s.subject artifact interface).binding) ∈
      (d.writeOutputs (s.texts artifact interface)).done := by
    rw [hend]
    exact List.mem_map_of_mem ho
  refine (hstands (apart_of_clear hs hclear) _ hdone).node (hprogress.unlinked hclear.unlinked) ?_
  rw [hprogress.place]
  exact hprogress.noDevice (hclear.device o ho)

/-- The outputs with their texts that are written are the first of those that are planned. -/
theorem texts_split {artifact : Artifact} {interface : Abi.Interface}
    {done rest : List (String × String)} (h : s.texts artifact interface = done ++ rest) :
    ∃ before after, s.planned = before ++ after ∧
      done = before.map (fun o =>
        (s.outputs.path o, o.text artifact (s.subject artifact interface).binding)) ∧
      rest = after.map (fun o =>
        (s.outputs.path o, o.text artifact (s.subject artifact interface).binding)) := by
  obtain ⟨before, after, hplanned, hbefore, hafter⟩ := List.map_eq_append_iff.1 h
  exact ⟨before, after, hplanned, hbefore.symm, hafter.symm⟩

/-! ## Finding the artifact -/

/-- The artifact of a contract and its interface, as a run finds them on a disk. -/
def Settings.Finds (s : Settings) (d : Disk) (artifactPath : String) (artifact : Artifact)
    (interface : Abi.Interface) : Prop :=
  (Store.load ⟨s.artifactsDir⟩ s.contract d).1 = .ok (artifactPath, artifact) ∧
    Abi.Interface.ofJson artifact.abi = .ok interface

/-- A run finds one artifact at most. -/
theorem Settings.Finds.unique {s : Settings} {d : Disk} {path path' : String}
    {artifact artifact' : Artifact} {interface interface' : Abi.Interface}
    (h : s.Finds d path artifact interface) (h' : s.Finds d path' artifact' interface') :
    path' = path ∧ artifact' = artifact ∧ interface' = interface := by
  have hloaded := Except.ok.inj (h'.1.symm.trans h.1)
  obtain ⟨rfl, rfl⟩ := Prod.mk.inj hloaded
  exact ⟨rfl, rfl, Except.ok.inj (h'.2.symm.trans h.2)⟩

/-- What a run loads from the place where it looks first. -/
theorem load_at_root {path text : String} {others names : List String}
    {entries : List (String × Node)} {attributes : Disk.Attributes}
    (hpaths : Store.conventional ⟨s.artifactsDir⟩ s.contract = path :: others)
    (hnames : Disk.Names path names)
    (hfile : (Node.dir entries).get? names = some (.file (Text.toBytes text) attributes)) :
    (Store.load ⟨s.artifactsDir⟩ s.contract (Disk.atRoot entries)).1 =
      ((Artifact.read text).mapError (Error.invalidArtifact path)).map
        fun artifact => (path, artifact) := by
  have hnode : (Disk.atRoot entries).node path = .ok (.file (Text.toBytes text) attributes) :=
    Disk.node_below (d := Disk.atRoot entries) hnames rfl hfile (by simp)
  have hisFile : (Disk.atRoot entries).isFile path = true := by
    rw [Disk.isFile, hnode]
    rfl
  have hread : Store.readAt path (Disk.atRoot entries) =
      (Artifact.read text).mapError (Error.invalidArtifact path) := by
    unfold Store.readAt Disk.readText Disk.readBytes
    rw [hnode]
    simp only [Disk.ofBytes?_toBytes]
  have hlocate : (Store.locate ⟨s.artifactsDir⟩ s.contract (Disk.atRoot entries)).path =
      some path := by
    unfold Store.locate
    rw [hpaths, List.find?_cons_of_pos hisFile]
  rw [Store.load_fst, hlocate]
  simp only [hread]

theorem finds_at_root {path text : String} {others names : List String}
    {entries : List (String × Node)} {attributes : Disk.Attributes} {artifact : Artifact}
    {interface : Abi.Interface} (hread : Artifact.read text = .ok artifact)
    (hinterface : Abi.Interface.ofJson artifact.abi = .ok interface)
    (hpaths : Store.conventional ⟨s.artifactsDir⟩ s.contract = path :: others)
    (hnames : Disk.Names path names)
    (hfile : (Node.dir entries).get? names = some (.file (Text.toBytes text) attributes)) :
    s.Finds (Disk.atRoot entries) path artifact interface := by
  refine ⟨(load_at_root hpaths hnames hfile).trans ?_, hinterface⟩
  rw [hread]
  rfl

theorem generate_result (s : Settings) (path : String) (artifact : Artifact)
    (interface : Abi.Interface) (d : Disk) :
    (generate s path artifact interface d).result =
      match (d.writeOutputs (s.texts artifact interface)).failure with
      | none => .ok (s.extracted path artifact interface)
      | some (path, fault) => .error (.persistenceFailed path fault) := by
  unfold generate
  simp only
  cases (d.writeOutputs (s.texts artifact interface)).failure <;> rfl

theorem generate_disk (s : Settings) (path : String) (artifact : Artifact)
    (interface : Abi.Interface) (d : Disk) :
    (generate s path artifact interface d).disk =
      (d.writeOutputs (s.texts artifact interface)).disk := by
  unfold generate
  simp only
  cases (d.writeOutputs (s.texts artifact interface)).failure <;> rfl

/-- What a run comes to that finds an artifact. -/
theorem extract_of_finds {artifactPath : String} {artifact : Artifact} {interface : Abi.Interface}
    (h : s.Finds d artifactPath artifact interface) :
    (extract s d).result =
        (match (d.writeOutputs (s.texts artifact interface)).failure with
        | none => .ok (s.extracted artifactPath artifact interface)
        | some (path, fault) => .error (.persistenceFailed path fault)) ∧
      (extract s d).disk = (d.writeOutputs (s.texts artifact interface)).disk := by
  obtain ⟨hload, hinterface⟩ := h
  rw [← generate_result s artifactPath, ← generate_disk s artifactPath]
  unfold extract
  cases hfound : Store.load ⟨s.artifactsDir⟩ s.contract d with
  | mk loaded log =>
    rw [hfound] at hload
    obtain rfl : loaded = .ok (artifactPath, artifact) := hload
    simp only [hinterface, and_self]

/-- A run that has its artifacts stops before it writes: there is no artifact that it can load, or
the artifact has no interface. -/
def Settings.Stops (s : Settings) (d : Disk) (e : Error) : Prop :=
  (Store.load ⟨s.artifactsDir⟩ s.contract d).1 = .error e ∨
    ∃ path artifact fault, (Store.load ⟨s.artifactsDir⟩ s.contract d).1 = .ok (path, artifact) ∧
      Abi.Interface.ofJson artifact.abi = .error fault ∧ e = .malformedInterface fault

theorem stops_or_finds (s : Settings) (d : Disk) :
    (∃ e, s.Stops d e) ∨ ∃ path artifact interface, s.Finds d path artifact interface := by
  unfold Settings.Stops Settings.Finds
  cases (Store.load ⟨s.artifactsDir⟩ s.contract d).1 with
  | error e => exact .inl ⟨e, .inl rfl⟩
  | ok found =>
    obtain ⟨path, artifact⟩ := found
    cases hinterface : Abi.Interface.ofJson artifact.abi with
    | error fault => exact .inl ⟨_, .inr ⟨path, artifact, fault, rfl, hinterface, rfl⟩⟩
    | ok interface => exact .inr ⟨path, artifact, interface, rfl, hinterface⟩

theorem stops_at_root {path text : String} {others names : List String}
    {entries : List (String × Node)} {attributes : Disk.Attributes} {fault : Json.PlacedFault}
    (hread : Artifact.read text = .error fault)
    (hpaths : Store.conventional ⟨s.artifactsDir⟩ s.contract = path :: others)
    (hnames : Disk.Names path names)
    (hfile : (Node.dir entries).get? names = some (.file (Text.toBytes text) attributes)) :
    s.Stops (Disk.atRoot entries) (.invalidArtifact path fault) := by
  refine .inl ((load_at_root hpaths hnames hfile).trans ?_)
  rw [hread]
  rfl

/-- A run that stops before it writes leaves the disk alone. -/
theorem extract_of_stops {e : Error} (h : s.Stops d e) :
    (extract s d).result = .error e ∧ (extract s d).disk = d ∧ e.stage ≠ .generating := by
  unfold extract
  cases hload : Store.load ⟨s.artifactsDir⟩ s.contract d with
  | mk loaded log =>
    rcases h with hfailed | ⟨path, artifact, fault, hloaded, hinterface, rfl⟩
    · rw [hload] at hfailed
      obtain rfl : loaded = .error e := hfailed
      exact ⟨rfl, rfl, by simp [stage_of_load hload]⟩
    · rw [hload] at hloaded
      obtain rfl : loaded = .ok (path, artifact) := hloaded
      simp only [hinterface]
      exact ⟨trivial, trivial, by simp [Error.stage]⟩

/-- A run that has its artifacts stops before it writes, and leaves the disk alone, or it finds an
artifact. -/
theorem extract_cases (s : Settings) (d : Disk) :
    (∃ e, (extract s d).result = .error e ∧ (extract s d).disk = d ∧ e.stage ≠ .generating) ∨
      ∃ path artifact interface, s.Finds d path artifact interface :=
  (stops_or_finds s d).imp_left fun ⟨e, h⟩ => ⟨e, extract_of_stops h⟩

/-- A run whose compiler succeeds goes on with the disk that the compiler leaves. -/
theorem run_of_compiled {compiler : Compile.Compiler} {w : World}
    (hcompiled : (compiled compiler s w).result = .ok ())
    (hdisk : (compiled compiler s w).disk = d) :
    (run compiler s w).1 = (extract s d).result ∧ (run compiler s w).2.disk = (extract s d).disk := by
  rw [run_eq, outcome]
  simp only [hcompiled, hdisk, and_self]

/-- What succeeds has found an artifact. -/
theorem finds_of_extract {x : Extracted} (h : (extract s d).result = .ok x) :
    ∃ path artifact interface, s.Finds d path artifact interface := by
  rcases extract_cases s d with ⟨e, hresult, -⟩ | hfinds
  · simp [hresult] at h
  · exact hfinds

/-- A run that succeeds has found an artifact. -/
theorem finds_of_run {compiler : Compile.Compiler} {w : World} {x : Extracted}
    (hcompiled : (compiled compiler s w).result = .ok ()) (h : (run compiler s w).1 = .ok x) :
    ∃ path artifact interface,
      s.Finds (compiled compiler s w).disk path artifact interface :=
  finds_of_extract ((run_of_compiled hcompiled rfl).1.symm.trans h)

/-- A run that finds an artifact has the result of its writing. -/
theorem run_of_finds {compiler : Compile.Compiler} {w : World} {artifactPath : String}
    {artifact : Artifact} {interface : Abi.Interface}
    (hcompiled : (compiled compiler s w).result = .ok ())
    (h : s.Finds (compiled compiler s w).disk artifactPath artifact interface) :
    let written := (compiled compiler s w).disk.writeOutputs (s.texts artifact interface)
    (run compiler s w).1 =
        (match written.failure with
        | none => .ok (s.extracted artifactPath artifact interface)
        | some (path, fault) => .error (.persistenceFailed path fault)) ∧
      (run compiler s w).2.disk = written.disk := by
  obtain ⟨hresult, hleft⟩ := run_of_compiled hcompiled rfl
  obtain ⟨hextracted, hwritten⟩ := extract_of_finds h
  exact ⟨hresult.trans hextracted, hleft.trans hwritten⟩

/-- A run that stops has nothing to show but its error. -/
theorem run_of_stops {compiler : Compile.Compiler} {w : World} {e : Error}
    (hcompiled : (compiled compiler s w).result = .ok ())
    (hdisk : (compiled compiler s w).disk = d) (h : s.Stops d e) :
    (run compiler s w).1 = .error e ∧ (run compiler s w).2.disk = d := by
  obtain ⟨hresult, hleft⟩ := run_of_compiled hcompiled hdisk
  obtain ⟨herror, hsame, -⟩ := extract_of_stops h
  exact ⟨hresult.trans herror, hleft.trans hsame⟩

/-- A run that finds an artifact and can write its outputs succeeds. -/
theorem run_of_written {compiler : Compile.Compiler} {w : World} {artifactPath : String}
    {artifact : Artifact} {interface : Abi.Interface}
    (hcompiled : (compiled compiler s w).result = .ok ())
    (hdisk : (compiled compiler s w).disk = d) (h : s.Finds d artifactPath artifact interface)
    (hwritten :
      let written := d.writeOutputs (s.texts artifact interface)
      written.failure = none ∧ written.disk = d') :
    (run compiler s w).1 = .ok (s.extracted artifactPath artifact interface) ∧
      (run compiler s w).2.disk = d' := by
  obtain ⟨hresult, hleft⟩ := run_of_finds hcompiled (hdisk ▸ h)
  rw [hdisk, hwritten.1] at hresult
  rw [hdisk, hwritten.2] at hleft
  exact ⟨hresult, hleft⟩

/-- A run without a module succeeds where its first output can be written and its second one goes to
a file without other names, or where nothing is yet. -/
theorem run_of_two {entries entries' : List (String × Node)} {artifactPath path path' name : String}
    {artifact : Artifact} {interface : Abi.Interface} (compiler : Compile.Compiler) (w : World)
    (hmodule : s.emitModule = false)
    (hpaths : s.outputs.path .abiJson = path ∧ s.outputs.path .typescript = path')
    (hcompiled : compiled compiler s w = { result := .ok (), disk := Disk.atRoot entries })
    (hfinds : s.Finds (Disk.atRoot entries) artifactPath artifact interface)
    (hfirst : (Disk.atRoot entries).writeOutput path artifact.abi.pretty =
      (.ok (), Disk.atRoot entries'))
    (hnames : Disk.Names path' [name] ∧ Disk.HasNoParent path')
    (hentry : ∀ node, entries'.lookup name = some node → ∃ bytes, node = .file bytes) :
    (run compiler s w).1 = .ok (s.extracted artifactPath artifact interface) ∧
      (run compiler s w).2.disk = Disk.atRoot (Node.setEntry name
        (.file (Text.toBytes (s.subject artifact interface).binding.typescript)) entries') := by
  have hsecond := Disk.writeOutput_plain hnames.1 hnames.2 hentry
    (s.subject artifact interface).binding.typescript
  have hwritten := Disk.writeOutputs_two hfirst hsecond
  rw [← hpaths.1, ← hpaths.2, ← texts_without_module hmodule] at hwritten
  exact run_of_written (by rw [hcompiled]) (by rw [hcompiled]) hfinds hwritten

end ContractBindings.Extraction
