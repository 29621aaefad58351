import ContractBindings.Proofs.CommandLine.Reading
import ContractBindings.Proofs.Extraction.Changes
import ContractBindings.Proofs.Text.Ink

/-!
# What the exit code says

The program ends with 0 after it has done what it was asked to do, with 1 after an error, and with 2
where its arguments cannot be used. What it says, and where, goes with that.

1. `response_of_usage`: what becomes of arguments that are not read.
2. `fails_of_run`, `succeeds_of_run`: what becomes of an invocation.
3. `execute_tells`: all that the exit code says.
4. `execute_loses_output`: a program that ends with 0 may have lost an output, where the command
   that compiles has made two outputs one file.
-/

namespace ContractBindings.CommandLine

open Extraction (Settings Output compiled)

/-! ## Failure and success -/

/-- The program has failed: it says nothing but what the error is, and what to do about it if there
is something to be done. -/
structure Response.Fails (r : Response) (e : Extraction.Error) : Prop where
  exitCode : r.exitCode = 1
  output : r.output = ""
  hint : ∀ hint, e.remediation = some hint →
    r.complaint = "error: " ++ e.message ++ "\n" ++ "hint: " ++ hint ++ "\n"
  noHint : e.remediation = none → r.complaint = "error: " ++ e.message ++ "\n"

/-- The lines about the outputs that were written. -/
def savedLines (s : Settings) : String :=
  String.join (s.planned.map fun o => o.label ++ " saved to: " ++ s.outputs.path o ++ "\n")

/-- The last line after a success. -/
def successLine (coloured : Bool) : String :=
  Text.renderSpans coloured [⟨.green, "ABI extraction completed successfully!"⟩] ++ "\n"

/-- The program has succeeded, with an artifact from a path. It complains about nothing, and unless
it is to be quiet it reports. -/
structure Response.Succeeds (r : Response) (quiet : Bool) (s : Settings) (path : String)
    (report : Report) : Prop where
  exitCode : r.exitCode = 0
  complaint : r.complaint = ""
  empty : r.output = "" ↔ quiet = true
  output : quiet = false →
    r.output = "Found artifact at: " ++ path ++ "\n\n" ++ report.render s.coloured ++ "\n" ++
      savedLines s ++ "\n" ++ successLine s.coloured

variable {arguments : List String} {s : Surroundings} {d : Disk} {i : Invocation} {u : Usage}

/-! ## Arguments that are not read -/

/-- Arguments that are not read change nothing. The exit code is 0 if help was asked for, else 2. -/
theorem response_of_usage (h : parse arguments = .error u) :
    (u.response d).disk = d ∧
      (((∃ topic, u = .help topic) ∧ (u.response d).exitCode = 0 ∧
          ∃ argument ∈ arguments, AsksForHelp argument) ∨
        ((∀ topic, u ≠ .help topic) ∧ (u.response d).exitCode = 2)) := by
  cases u with
  | help topic => exact ⟨rfl, .inl ⟨⟨topic, rfl⟩, rfl, help_of_parse h⟩⟩
  | _ => exact ⟨rfl, .inr ⟨by simp, rfl⟩⟩

/-! ## Invocations -/

/-- The disk on which an invocation extracts: the command that compiles has run, if there is one. -/
def Invocation.ready (i : Invocation) (s : Surroundings) (d : Disk) : Disk :=
  match i.compileCmd.bind Compile.Command.ofLine? with
  | none => d
  | some command => (s.compiler command 0 d).disk

/-- What the run of an invocation comes to, with a command to compile with. -/
def Invocation.run (i : Invocation) (s : Surroundings) (command : Compile.Command) (d : Disk) :
    Except Extraction.Error Extraction.Extracted × Extraction.World :=
  Extraction.run (s.compiler command) (i.settings s.outputWatched) { disk := d }

variable {command : Compile.Command}

theorem ready_eq (hcommand : i.compileCommand? = some command) :
    (compiled (s.compiler command) (i.settings s.outputWatched) { disk := d }).disk =
      i.ready s d := by
  unfold compiled Invocation.ready Invocation.compileCommand? at *
  cases hline : i.compileCmd with
  | none => simp [Invocation.settings, hline]
  | some line =>
    rw [hline] at hcommand
    have hline' : Compile.Command.ofLine? line = some command := hcommand
    simp [Invocation.settings, hline, hline']

theorem execute_eq (hcommand : i.compileCommand? = some command) :
    i.execute s d =
      match i.run s command d with
      | (.ok x, w) =>
        { exitCode := 0
          output := if i.quiet then "" else
            Text.renderSpans (i.settings s.outputWatched).coloured (summary x)
          log := w.log
          disk := w.disk }
      | (.error e, w) =>
        { exitCode := 1, complaint := errorText e, log := w.log, disk := w.disk } := by
  rw [Invocation.execute, hcommand]
  rfl

theorem disk_of_run (hcommand : i.compileCommand? = some command) :
    (i.execute s d).disk = (i.run s command d).2.disk := by
  rw [execute_eq hcommand]
  cases i.run s command d with
  | mk result w => cases result <;> rfl

theorem fails_of_run {e : Extraction.Error} (hcommand : i.compileCommand? = some command)
    (h : (i.run s command d).1 = .error e) : (i.execute s d).Fails e := by
  rw [execute_eq hcommand]
  cases hrun : i.run s command d with
  | mk result w =>
    rw [hrun] at h
    obtain rfl : result = .error e := h
    refine ⟨rfl, rfl, ?_, ?_⟩
    · intro hint hhint
      simp only [errorText, hhint, String.append_assoc]
    · intro hnone
      simp [errorText, hnone]

/-- What becomes of an invocation whose run succeeds. -/
theorem execute_of_run {x : Extraction.Extracted} (hcommand : i.compileCommand? = some command)
    (h : (i.run s command d).1 = .ok x) :
    i.execute s d =
      { exitCode := 0
        output := if i.quiet then "" else
          Text.renderSpans (i.settings s.outputWatched).coloured (summary x)
        log := (i.run s command d).2.log
        disk := (i.run s command d).2.disk } := by
  rw [execute_eq hcommand]
  cases hrun : i.run s command d with
  | mk result w =>
    rw [hrun] at h
    obtain rfl : result = .ok x := h
    rfl

theorem renderSpans_lines (s : Settings) (coloured : Bool) :
    Text.renderSpans coloured
        (s.planned.map fun o => Text.plain (writtenLine o (s.outputs.path o))) =
      savedLines s := by
  rw [Text.renderSpans, List.map_map]
  rfl

/-- The spans of what is said about a success. -/
theorem summary_extracted (s : Settings) (path : String) (artifact : Artifact)
    (interface : Abi.Interface) :
    let x := s.extracted path artifact interface
    summary x =
      [Text.plain ("Found artifact at: " ++ path ++ "\n\n")] ++ x.report.spans ++
        [Text.plain "\n"] ++
        (s.planned.map fun o => Text.plain (writtenLine o (s.outputs.path o))) ++
        ([Text.plain "\n"] ++ [⟨.green, "ABI extraction completed successfully!"⟩] ++
          [Text.plain "\n"]) := by
  intro x
  rw [summary, show x.written = s.planned.map fun o => (o, s.outputs.path o) from rfl,
    List.map_map]
  rfl

/-- What is said about a success, line by line. -/
theorem render_summary (s : Settings) (path : String) (artifact : Artifact)
    (interface : Abi.Interface) :
    let x := s.extracted path artifact interface
    Text.renderSpans s.coloured (summary x) =
      "Found artifact at: " ++ path ++ "\n\n" ++ x.report.render s.coloured ++ "\n" ++
        savedLines s ++ "\n" ++ successLine s.coloured := by
  intro x
  simp only [x, summary_extracted, Text.renderSpans_append, Text.renderSpans_plain,
    renderSpans_lines, successLine, Report.render, String.append_assoc]

theorem outputs_settings (i : Invocation) (watched : Bool) :
    (i.settings watched).outputs =
      Extraction.OutputPaths.inDir i.outDir (i.settings watched).contract :=
  rfl

/-- A run that succeeds has found an artifact where the invocation extracts, and has written all
outputs. -/
theorem written_of_run {x : Extraction.Extracted} (hcommand : i.compileCommand? = some command)
    (h : (i.run s command d).1 = .ok x) :
    ∃ path artifact interface,
      let settings := i.settings s.outputWatched
      settings.Finds (i.ready s d) path artifact interface ∧
        x = settings.extracted path artifact interface ∧
        ((i.ready s d).writeOutputs (settings.texts artifact interface)).failure = none ∧
        (i.run s command d).2.disk =
          ((i.ready s d).writeOutputs (settings.texts artifact interface)).disk := by
  have hcompiled : (compiled (s.compiler command) (i.settings s.outputWatched)
      { disk := d }).result = .ok () := by
    rw [Invocation.run, Extraction.run_eq, Extraction.outcome] at h
    cases hresult : (compiled (s.compiler command) (i.settings s.outputWatched)
        { disk := d }).result with
    | ok _ => rfl
    | error failure => simp [hresult] at h
  obtain ⟨path, artifact, interface, hfinds⟩ := Extraction.finds_of_run hcompiled h
  obtain ⟨hresult, hdisk⟩ := Extraction.run_of_finds hcompiled hfinds
  rw [ready_eq hcommand] at hfinds hresult hdisk
  rw [show Extraction.run _ _ _ = i.run s command d from rfl, h] at hresult
  refine ⟨path, artifact, interface, hfinds, ?_⟩
  cases hfailure : ((i.ready s d).writeOutputs
      ((i.settings s.outputWatched).texts artifact interface)).failure with
  | none =>
    rw [hfailure] at hresult
    exact ⟨Except.ok.inj hresult, rfl, hdisk⟩
  | some failure =>
    rw [hfailure] at hresult
    simp at hresult

theorem succeeds_of_run {x : Extraction.Extracted} {path : String} {artifact : Artifact}
    {interface : Abi.Interface} (hcommand : i.compileCommand? = some command)
    (h : (i.run s command d).1 = .ok x)
    (hx : x = (i.settings s.outputWatched).extracted path artifact interface) :
    (i.execute s d).Succeeds i.quiet (i.settings s.outputWatched) path x.report := by
  have hsaid := render_summary (i.settings s.outputWatched) path artifact interface
  rw [← hx] at hsaid
  rw [execute_of_run hcommand h]
  simp only [hsaid]
  refine ⟨rfl, rfl, ?_, ?_⟩
  · cases i.quiet <;> simp
  · intro hquiet
    simp [hquiet]

/-- An invocation succeeds if the command that compiles does, an artifact can be found then and the
outputs can be written. -/
theorem succeeds_of_finds {path : String} {artifact : Artifact} {interface : Abi.Interface}
    (hcommand : i.compileCommand? = some command)
    (hcompiled : (compiled (s.compiler command) (i.settings s.outputWatched)
      { disk := d }).result = .ok ())
    (hfinds : (i.settings s.outputWatched).Finds (i.ready s d) path artifact interface)
    (hwritten : ((i.ready s d).writeOutputs
      ((i.settings s.outputWatched).texts artifact interface)).failure = none) :
    (i.execute s d).exitCode = 0 ∧
      (i.execute s d).disk = ((i.ready s d).writeOutputs
        ((i.settings s.outputWatched).texts artifact interface)).disk := by
  rw [← ready_eq hcommand] at hfinds
  obtain ⟨hresult, hdisk⟩ := Extraction.run_of_finds hcompiled hfinds
  rw [ready_eq hcommand] at hresult hdisk
  rw [hwritten] at hresult
  exact ⟨(succeeds_of_run hcommand hresult rfl).exitCode, (disk_of_run hcommand).trans hdisk⟩

/-! ## A small disk -/

namespace Sample

open Disk (Node)
open Extraction.Sample (artifact artifactText contracts leaving)

/-- A command line with a line to compile with. -/
def line (compileCmd : String) : List String :=
  ["build", "T", "--artifacts=.", "-o=.", "--no-module", "--compile-cmd=" ++ compileCmd]

/-- The invocation that is read from it. -/
def invocation (compileCmd : String) : Invocation :=
  { command := .compileAndExtract, contract := "T", artifacts := ".", outDir := "."
    module := false, compileCmd := some compileCmd }

/-- A disk with an artifact, and two nodes where outputs go. -/
def disk (abi typescript : Node) : Disk :=
  { root := .dir [("T-abi.json", abi), ("T-interface.ts", typescript), ("contracts", contracts)] }

/-- That disk with two files, which are one file if they have an identity. -/
def files (identity : Nat) (abi typescript : ByteArray) : Disk :=
  disk (.file abi { identity }) (.file typescript { identity })

/-- Surroundings in which every command leaves a disk. -/
def surroundings (d : Disk) : Surroundings := { compiler := fun _ => leaving d }

/-- The settings of the invocation. -/
def settings (compileCmd : String) : Settings := (invocation compileCmd).settings false

variable {abi typescript : Node} {compileCmd path text : String} {d' : Disk}

theorem finds_disk (compileCmd : String) (abi typescript : Node) :
    (settings compileCmd).Finds (disk abi typescript) "./contracts/T.sol/T.json" artifact {} := by
  have hpaths : Store.conventional ⟨"."⟩ "T" = ["./contracts/T.sol/T.json",
      "./contracts/T.SOL/T.json", "./contracts/T.sol/T.sol/T.json"] := by decide
  have hnames : Disk.Names "./contracts/T.sol/T.json" ["contracts", "T.sol", "T.json"] := by decide
  exact Extraction.finds_at_root Extraction.Sample.read_artifactText
    Extraction.Sample.interface_artifact hpaths hnames rfl

theorem names_outputs :
    (Disk.Names "./T-abi.json" ["T-abi.json"] ∧ Disk.HasNoParent "./T-abi.json") ∧
      Disk.Names "./T-interface.ts" ["T-interface.ts"] ∧ Disk.HasNoParent "./T-interface.ts" := by
  decide

theorem writeOutput_abi (old : ByteArray) (typescript : Node) (text : String) :
    (disk (.file old) typescript).writeOutput "./T-abi.json" text =
      (.ok (), disk (.file (Text.toBytes text)) typescript) :=
  Disk.writeOutput_plain names_outputs.1.1 names_outputs.1.2 (by simp) text

theorem writeOutput_typescript (abi : Node) (old : ByteArray) (text : String) :
    (disk abi (.file old)).writeOutput "./T-interface.ts" text =
      (.ok (), disk abi (.file (Text.toBytes text))) :=
  Disk.writeOutput_plain names_outputs.2.1 names_outputs.2.2 (by simp [List.lookup]) text

/-- A link where the first output goes is followed to where the second one goes. -/
theorem writeOutput_linked (old : ByteArray) (text : String) :
    (disk (.link "T-interface.ts") (.file old)).writeOutput "./T-abi.json" text =
      (.ok (), disk (.link "T-interface.ts") (.file (Text.toBytes text))) :=
  Disk.writeOutput_link names_outputs.1.1 Extraction.Sample.names_outputs.2.1 names_outputs.1.2 rfl
    rfl text

theorem writeOutput_null (typescript : Node) (text : String) :
    (disk (.device .null) typescript).writeOutput "./T-abi.json" text =
      (.ok (), disk (.device .null) typescript) :=
  Disk.writeOutput_null names_outputs.1.1 names_outputs.1.2 rfl text

theorem writeOutput_shared (old old' : ByteArray) (text : String) :
    (files 1 old old').writeOutput "./T-abi.json" text =
        (.ok (), files 1 (Text.toBytes text) (Text.toBytes text)) ∧
      (files 1 old old').writeOutput "./T-interface.ts" text =
        (.ok (), files 1 (Text.toBytes text) (Text.toBytes text)) := by
  let entries : List (String × Node) := [("T-abi.json", .file old { identity := 1 }),
    ("T-interface.ts", .file old' { identity := 1 }), ("contracts", contracts)]
  have habi : entries.lookup "T-abi.json" = some (.file old { identity := 1 }) := rfl
  have htypescript : entries.lookup "T-interface.ts" = some (.file old' { identity := 1 }) := rfl
  have hrewrite : Disk.atRoot (Node.rewriteAll 1 0 (Text.toBytes text) entries) =
      files 1 (Text.toBytes text) (Text.toBytes text) := by
    simp [Node.rewriteAll, Node.rewrite, entries, contracts, files, disk, Disk.atRoot]
  rw [← hrewrite]
  exact ⟨Disk.writeOutput_shared names_outputs.1.1 names_outputs.1.2 habi Nat.one_ne_zero text,
    Disk.writeOutput_shared names_outputs.2.1 names_outputs.2.2 htypescript Nat.one_ne_zero text⟩

theorem plain_files (abi typescript : ByteArray) : (files 0 abi typescript).root.Plain := by
  refine .dir ?_
  simp only [List.forall_mem_cons, List.not_mem_nil]
  exact ⟨.file rfl, .file rfl, Extraction.Sample.plain_contracts, by simp⟩

theorem node_abi {abi : Node} (hlink : ∀ target, abi ≠ .link target) (typescript : Node) :
    (disk abi typescript).node "./T-abi.json" = .ok abi :=
  Disk.node_below names_outputs.1.1 rfl rfl hlink

theorem node_linked (bytes : ByteArray) :
    (disk (.link "T-interface.ts") (.file bytes)).node "./T-abi.json" = .ok (.file bytes) :=
  Disk.node_link names_outputs.1.1 Extraction.Sample.names_outputs.2.1 rfl rfl rfl (by simp)

/-- The TypeScript of the artifact. -/
def typescriptText (compileCmd : String) : String :=
  ((settings compileCmd).subject artifact {}).binding.typescript

theorem head_header (s : TypeScript.Subject) : s.header.toList.head? = some '/' := by
  have hmark : "// Generated TypeScript interface for ".toList.head? = some '/' := by simp
  unfold TypeScript.Subject.header
  rw [String.append_assoc, String.append_assoc, String.append_assoc, String.toList_append,
    List.head?_append, hmark]
  rfl

/-- It begins with a comment, and so is no JSON. -/
theorem head_typescriptText (compileCmd : String) :
    (typescriptText compileCmd).toList.head? = some '/' := by
  rw [typescriptText]
  generalize (settings compileCmd).subject artifact {} = s
  obtain ⟨blocks, hblocks⟩ : ∃ blocks, s.binding.typeBlocks ++
      [s.binding.abiConstant, s.binding.bytecodeConstant, s.binding.deployType] =
        s.header :: s.contractInterface :: blocks := ⟨_, rfl⟩
  rw [TypeScript.Binding.typescript, TypeScript.Binding.joined, String.toList_intercalate, hblocks,
    List.map_cons, List.map_cons, List.intercalate_cons_cons, List.append_assoc, List.head?_append,
    head_header, Option.some_or]

theorem paths_settings (compileCmd : String) :
    (settings compileCmd).outputs.path .abiJson = "./T-abi.json" ∧
      (settings compileCmd).outputs.path .typescript = "./T-interface.ts" := by
  rw [show (settings compileCmd).outputs = Extraction.OutputPaths.inDir "." "T" from rfl]
  decide

theorem texts_settings (compileCmd : String) :
    (settings compileCmd).texts artifact {} =
      [("./T-abi.json", artifact.abi.pretty), ("./T-interface.ts", typescriptText compileCmd)] := by
  rw [← (paths_settings compileCmd).1, ← (paths_settings compileCmd).2]
  rfl

theorem node_ne {compileCmd : String} {d : Disk} {attributes : Disk.Attributes}
    (h : d.node "./T-abi.json" =
      .ok (.file (Text.toBytes (typescriptText compileCmd)) attributes)) :
    ∀ attributes, d.node "./T-abi.json" ≠ .ok (.file (Text.toBytes "[]") attributes) := by
  intro attributes' hjson
  have hbytes := (Node.file.inj (Except.ok.inj (h.symm.trans hjson))).1
  have htext := congrArg Text.ofBytes? hbytes
  rw [Disk.ofBytes?_toBytes, Disk.ofBytes?_toBytes, Option.some.injEq] at htext
  have hhead := head_typescriptText compileCmd
  rw [htext] at hhead
  revert hhead
  decide

/-- Both outputs can be written, and what they leave. -/
theorem written_disk {d between after : Disk}
    (hfirst : d.writeOutput "./T-abi.json" artifact.abi.pretty = (.ok (), between))
    (hsecond : between.writeOutput "./T-interface.ts" (typescriptText compileCmd) = (.ok (), after)) :
    let w := d.writeOutputs ((settings compileCmd).texts artifact {})
    w.failure = none ∧ w.disk = after := by
  rw [texts_settings]
  exact Disk.writeOutputs_two hfirst hsecond

theorem written_shared (compileCmd : String) :
    let w := (files 1 .empty .empty).writeOutputs ((settings compileCmd).texts artifact {})
    w.failure = none ∧ w.disk = files 1 (Text.toBytes (typescriptText compileCmd))
      (Text.toBytes (typescriptText compileCmd)) :=
  written_disk (writeOutput_shared _ _ _).1 (writeOutput_shared _ _ _).2

theorem written_null (compileCmd : String) :
    let w := (disk (.device .null) (.file .empty)).writeOutputs
      ((settings compileCmd).texts artifact {})
    w.failure = none ∧ w.disk = disk (.device .null)
      (.file (Text.toBytes (typescriptText compileCmd))) :=
  written_disk (writeOutput_null _ _) (writeOutput_typescript _ _ _)

theorem written_linked (compileCmd : String) :
    let w := (disk (.link "T-interface.ts") (.file .empty)).writeOutputs
      ((settings compileCmd).texts artifact {})
    w.failure = none ∧ w.disk = disk (.link "T-interface.ts")
      (.file (Text.toBytes (typescriptText compileCmd))) :=
  written_disk (writeOutput_linked _ _) (writeOutput_typescript _ _ _)

theorem written_apart (compileCmd : String) :
    ((files 0 .empty .empty).writeOutputs ((settings compileCmd).texts artifact {})).failure =
      none :=
  (written_disk (writeOutput_abi _ _ _) (writeOutput_typescript _ _ _)).1

/-- The program succeeds if the outputs can be written on the disk that is left to it. -/
theorem execute_line {command : Compile.Command} (d : Disk)
    (hparse : parse (line compileCmd) = .ok (invocation compileCmd))
    (hcommand : Compile.Command.ofLine? compileCmd = some command)
    (hwritten : ((disk abi typescript).writeOutputs
      ((settings compileCmd).texts artifact {})).failure = none) :
    let s := surroundings (disk abi typescript)
    (invocation compileCmd).ready s d = disk abi typescript ∧
      (execute (line compileCmd) s d).exitCode = 0 ∧
      (execute (line compileCmd) s d).disk =
        ((disk abi typescript).writeOutputs ((settings compileCmd).texts artifact {})).disk := by
  intro s
  have hready : (invocation compileCmd).ready s d = disk abi typescript := by
    simp [Invocation.ready, invocation, hcommand, s, surroundings, leaving]
  have hcompileCommand : (invocation compileCmd).compileCommand? = some command := hcommand
  have hcompiled : (compiled (s.compiler command) ((invocation compileCmd).settings
      s.outputWatched) { disk := d }).result = .ok () := rfl
  have hexecute : execute (line compileCmd) s d = (invocation compileCmd).execute s d := by
    simp only [execute, hparse]
  have hsucceeds := succeeds_of_finds hcompileCommand hcompiled
    (hready.symm ▸ finds_disk compileCmd abi typescript) (hready.symm ▸ hwritten)
  rw [hready, ← hexecute] at hsucceeds
  exact ⟨hready, hsucceeds⟩

end Sample

/-! ## The program -/

/-- The output is a file that holds its text, as it is made from an artifact. -/
def Delivered (s : Settings) (artifact : Artifact) (interface : Abi.Interface) (d : Disk)
    (o : Output) : Prop :=
  ∃ attributes, d.node (s.outputs.path o) =
    .ok (.file (Text.toBytes (o.text artifact (s.subject artifact interface).binding)) attributes)

/-- The exit code tells what has happened. Arguments that cannot be used change nothing, and only
help that was asked for is a success. An invocation fails with the error of its run, or it succeeds:
then it has found an artifact, has reported on it unless it is to be quiet, and all outputs are
there, if they can be told apart on the disk on which it extracts. -/
theorem execute_tells (arguments : List String) (s : Surroundings) (d : Disk) :
    let r := execute arguments s d
    match parse arguments with
    | .error u =>
      r.disk = d ∧
        (((∃ topic, u = .help topic) ∧ r.exitCode = 0 ∧
            ∃ argument ∈ arguments, AsksForHelp argument) ∨
          ((∀ topic, u ≠ .help topic) ∧ r.exitCode = 2))
    | .ok i =>
      let settings := i.settings s.outputWatched
      ∃ command, i.compileCommand? = some command ∧
        ((∃ e, (i.run s command d).1 = .error e ∧ r.Fails e) ∨
          ∃ path artifact interface, settings.Finds (i.ready s d) path artifact interface ∧
            r.Succeeds i.quiet settings path
              { interface, artifact, includesAbi := i.printAbi } ∧
            (settings.Clear (i.ready s d) →
              ∀ o ∈ settings.planned, Delivered settings artifact interface r.disk o)) := by
  intro r
  cases hparse : parse arguments with
  | error u =>
    have hr : r = u.response d := by simp only [r, execute, hparse]
    rw [hr]
    exact response_of_usage hparse
  | ok i =>
    have hr : r = i.execute s d := by simp only [r, execute, hparse]
    rw [hr]
    obtain ⟨command, hcommand⟩ := exists_compileCommand hparse
    refine ⟨command, hcommand, ?_⟩
    cases hrun : (i.run s command d).1 with
    | error e => exact .inl ⟨e, rfl, fails_of_run hcommand hrun⟩
    | ok x =>
      obtain ⟨path, artifact, interface, hfinds, hx, hwritten, hdisk⟩ :=
        written_of_run hcommand hrun
      have hsucceeds := succeeds_of_run hcommand hrun hx
      rw [hx] at hsucceeds
      refine .inr ⟨path, artifact, interface, hfinds, hsucceeds, fun hclear o ho => ?_⟩
      rw [Delivered, disk_of_run hcommand, hdisk]
      exact Extraction.files_of_written (outputs_settings i s.outputWatched) hclear hwritten o ho

/-- A program that ends with 0 and has both outputs where they belong. -/
theorem execute_tells_apart :
    let before := Sample.files 0 .empty .empty
    let r := execute (Sample.line "make") (Sample.surroundings before) {}
    (Sample.settings "make").Clear before ∧ r.exitCode = 0 ∧
      ∃ path artifact interface, (Sample.settings "make").Finds before path artifact interface ∧
        ∀ o ∈ (Sample.settings "make").planned,
          Delivered (Sample.settings "make") artifact interface r.disk o := by
  intro before r
  have hclear : (Sample.settings "make").Clear before :=
    Extraction.clear_of_plain _ (Sample.plain_files _ _)
  obtain ⟨hready, hexit, -⟩ := @Sample.execute_line _ _ "make" { program := "make" } {} rfl
    (by decide) (Sample.written_apart "make")
  have htells := execute_tells (Sample.line "make") (Sample.surroundings before) {}
  rw [show parse (Sample.line "make") = .ok (Sample.invocation "make") from rfl] at htells
  obtain ⟨command, -, hfails | ⟨path, artifact, interface, hfinds, -, hdelivered⟩⟩ := htells
  · obtain ⟨e, -, hfails⟩ := hfails
    exact absurd (hfails.exitCode.symm.trans hexit) (by decide)
  · rw [show (Sample.invocation "make").ready (Sample.surroundings before) {} = before
      from hready] at hfinds hdelivered
    exact ⟨hclear, hexit, path, artifact, interface, hfinds, hdelivered hclear⟩

/-- The program ends with 0 after a command, on a disk without links, and its first output does not
hold what it should. -/
def Sample.Loses (compileCmd : String) (left : Disk) : Prop :=
  let s := surroundings left
  let before : Disk :=
    { root := .dir [("T-abi.json", .file .empty), ("contracts", Extraction.Sample.contracts)] }
  let r := execute (line compileCmd) s before
  before.root.Unlinked ∧ parse (line compileCmd) = .ok (invocation compileCmd) ∧ r.exitCode = 0 ∧
    ∃ path artifact interface,
      (settings compileCmd).Finds ((invocation compileCmd).ready s before) path artifact
        interface ∧
      ¬Delivered (settings compileCmd) artifact interface r.disk .abiJson

theorem Sample.loses {compileCmd : String} {abi typescript : Disk.Node} {d' : Disk}
    (hparse : parse (line compileCmd) = .ok (invocation compileCmd))
    (hcommand : (Compile.Command.ofLine? compileCmd).isSome = true)
    (hwritten :
      let w := (disk abi typescript).writeOutputs
        ((settings compileCmd).texts Extraction.Sample.artifact {})
      w.failure = none ∧ w.disk = d')
    (hnode : ∀ attributes, d'.node "./T-abi.json" ≠ .ok (.file (Text.toBytes "[]") attributes)) :
    Loses compileCmd (disk abi typescript) := by
  obtain ⟨hfailure, hafter⟩ := hwritten
  obtain ⟨command, hcommand⟩ := Option.isSome_iff_exists.1 hcommand
  obtain ⟨hready, hexit, hdisk⟩ := execute_line
    { root := .dir [("T-abi.json", .file .empty), ("contracts", Extraction.Sample.contracts)] }
    hparse hcommand hfailure
  have hplain : (Disk.Node.dir [("T-abi.json", .file .empty),
      ("contracts", Extraction.Sample.contracts)]).Plain := by
    refine .dir ?_
    simp only [List.forall_mem_cons, List.not_mem_nil]
    exact ⟨.file rfl, Extraction.Sample.plain_contracts, by simp⟩
  refine ⟨hplain.unlinked, hparse, hexit, _, _, _, hready ▸ finds_disk compileCmd _ _, ?_⟩
  rintro ⟨attributes, hdelivered⟩
  rw [hdisk, hafter, (paths_settings compileCmd).1] at hdelivered
  refine hnode attributes (hdelivered.trans ?_)
  rw [show Output.abiJson.text Extraction.Sample.artifact _ = "[]" from
    Extraction.Sample.pretty_abi]

/-- A program that ends with 0 may have lost an output, though there were no links before: the
command that compiles has made two outputs names of one file, or has put a link or a device where
one of them goes. -/
theorem execute_loses_output :
    Sample.Loses "ln T-abi.json T-interface.ts" (Sample.files 1 .empty .empty) ∧
      Sample.Loses "make" (Sample.disk (.link "T-interface.ts") (.file .empty)) ∧
      Sample.Loses "make" (Sample.disk (.device .null) (.file .empty)) := by
  refine ⟨?_, ?_, ?_⟩
  · exact Sample.loses rfl (by decide) (Sample.written_shared _)
      (Sample.node_ne (Sample.node_abi (by simp) _))
  · exact Sample.loses rfl (by decide) (Sample.written_linked _)
      (Sample.node_ne (Sample.node_linked _))
  · refine Sample.loses rfl (by decide) (Sample.written_null _) fun attributes => ?_
    rw [Sample.node_abi (by simp)]
    simp

end ContractBindings.CommandLine
