import ContractBindings.Proofs.CommandLine.Outcome
import ContractBindings.Proofs.Extraction.Independent
import ContractBindings.Proofs.Report

/-!
# Options that only change what is said

Whether the program is quiet, prints the interface and uses colours makes no difference to what it
does. Where it reports, colours can be taken away again, and the interface is one section more.

1. `run_withLooks`: a run with another look of its report is the same run.
2. `execute_withLooks`: an invocation with another look has the same effects.
3. `clean_said`: colours can be taken away from all that is said about a success.
4. `execute_looks`: two command lines that differ in the looks alone.
-/

namespace ContractBindings.Extraction

variable {s : Settings} {d : Disk}

/-! ## Runs -/

/-- The settings with another look of the report. -/
def Settings.withLooks (s : Settings) (includeAbi coloured : Bool) : Settings :=
  { s with includeAbi, coloured }

/-- What a run has to show, with the interface in its report or without it. -/
def Extracted.withAbi (x : Extracted) (includesAbi : Bool) : Extracted :=
  { x with report := { x.report with includesAbi } }

theorem generate_withLooks (includeAbi coloured : Bool) (path : String) (artifact : Artifact)
    (interface : Abi.Interface) (d : Disk) :
    generate (s.withLooks includeAbi coloured) path artifact interface d =
      { generate s path artifact interface d with
        result := (generate s path artifact interface d).result.map (·.withAbi includeAbi) } := by
  have htexts : (s.withLooks includeAbi coloured).texts artifact interface =
      s.texts artifact interface := rfl
  unfold generate
  rw [htexts]
  cases hfailure : (d.writeOutputs (s.texts artifact interface)).failure with
  | none => simp only [hfailure]; rfl
  | some failure => simp only [hfailure]; rfl

theorem extract_withLooks (includeAbi coloured : Bool) (s : Settings) (d : Disk) :
    extract (s.withLooks includeAbi coloured) d =
      { extract s d with result := (extract s d).result.map (·.withAbi includeAbi) } := by
  have hload : Store.load ⟨(s.withLooks includeAbi coloured).artifactsDir⟩
      (s.withLooks includeAbi coloured).contract d = Store.load ⟨s.artifactsDir⟩ s.contract d := rfl
  unfold extract
  rw [hload]
  cases Store.load ⟨s.artifactsDir⟩ s.contract d with
  | mk loaded log =>
    cases loaded with
    | error e => rfl
    | ok found =>
      obtain ⟨path, artifact⟩ := found
      simp only
      cases Abi.Interface.ofJson artifact.abi with
      | error fault => rfl
      | ok interface => simp only [generate_withLooks]

/-- A run with another look of its report is the same run, but for the report. -/
theorem run_withLooks (compiler : Compile.Compiler) (includeAbi coloured : Bool) (s : Settings)
    (w : World) :
    run compiler (s.withLooks includeAbi coloured) w =
      ((run compiler s w).1.map (·.withAbi includeAbi), (run compiler s w).2) := by
  have hcompiled : compiled compiler (s.withLooks includeAbi coloured) w = compiled compiler s w :=
    rfl
  rw [run_eq, run_eq, outcome, outcome, hcompiled, extract_withLooks]
  cases (compiled compiler s w).result with
  | error failure => rfl
  | ok _ =>
    simp only [Outcome.lastStage, Outcome.closingLog]
    cases (extract s (compiled compiler s w).disk).result <;> rfl

end ContractBindings.Extraction

namespace ContractBindings.CommandLine

open Extraction (Settings)
open Text (NoCode)

variable {arguments arguments' : List String} {s : Surroundings} {d : Disk} {i : Invocation}
  {command : Compile.Command}

/-! ## Effects -/

/-- The invocation with other options for its looks. -/
def Invocation.withLooks (i : Invocation) (quiet printAbi : Bool) (color : ColorChoice) :
    Invocation :=
  { i with quiet, printAbi, color }

/-- Two programs have ended alike and have done the same, whatever they said about a success. -/
structure Response.SameEffects (r r' : Response) : Prop where
  exitCode : r'.exitCode = r.exitCode
  complaint : r'.complaint = r.complaint
  disk : r'.disk = r.disk
  log : r'.log = r.log

theorem invocationRun_withLooks (i : Invocation) (quiet printAbi : Bool) (color : ColorChoice)
    (s : Surroundings) (command : Compile.Command) (d : Disk) :
    (i.withLooks quiet printAbi color).run s command d =
      ((i.run s command d).1.map (·.withAbi printAbi), (i.run s command d).2) :=
  Extraction.run_withLooks (s.compiler command) printAbi (color.applies s.outputWatched)
    (i.settings s.outputWatched) { disk := d }

/-- An invocation with another look has the same effects. -/
theorem execute_withLooks (quiet printAbi : Bool) (color : ColorChoice)
    (hcommand : i.compileCommand? = some command) (s : Surroundings) (d : Disk) :
    (i.execute s d).SameEffects ((i.withLooks quiet printAbi color).execute s d) := by
  have hcommand' : (i.withLooks quiet printAbi color).compileCommand? = some command := hcommand
  rw [execute_eq hcommand, execute_eq hcommand', invocationRun_withLooks]
  cases i.run s command d with
  | mk result w => cases result <;> exact ⟨rfl, rfl, rfl, rfl⟩

/-! ## What is said -/

/-- No text that an output of the program shows begins a code. -/
structure Readable (s : Settings) (path : String) (report : Report) : Prop where
  path : NoCode path
  outputs : ∀ o ∈ s.planned, NoCode (s.outputs.path o)
  report : ∀ t ∈ report.shown, NoCode t

theorem clean_written {s : Settings} (h : ∀ o ∈ s.planned, NoCode (s.outputs.path o)) :
    AllClean (s.planned.map fun o => Text.plain (writtenLine o (s.outputs.path o))) := by
  refine List.forall_mem_map.2 fun o ho => clean_plain ?_
  have hlabel : NoCode o.label := by cases o <;> decide
  exact noCode_append (noCode_append (noCode_append hlabel (by decide)) (h o ho)) (by decide)

/-- Colours can be taken away from all that is said about a success. -/
theorem clean_said {s : Settings} {path : String} {artifact : Artifact}
    {interface : Abi.Interface} (h : Readable s path { interface, artifact }) :
    AllClean (summary (s.extracted path artifact interface)) := by
  have hfound : NoCode ("Found artifact at: " ++ path ++ "\n\n") :=
    noCode_append (noCode_append (by decide) h.path) (by decide)
  have hbreak : AllClean [Text.plain "\n"] := .cons (clean_plain (by decide)) .nil
  rw [summary_extracted]
  refine .append (.append (.append (.append ?_ ?_) hbreak) (clean_written h.outputs))
    (.append (.append hbreak ?_) hbreak)
  · exact .cons (clean_plain hfound) .nil
  · exact Report.clean_spans h.report
  · exact .cons (clean_span (by decide) (by decide)) .nil

/-- The output after a success, from a report without the interface on. -/
def restOfOutput (s : Settings) (report : Report) (coloured : Bool) : String :=
  report.render coloured ++ "\n" ++ savedLines s ++ "\n" ++ successLine coloured

/-- With the interface, what is said about a success has one section more, and it stands where the
report begins. -/
theorem render_summary_withAbi (s : Settings) (path : String) (artifact : Artifact)
    (interface : Abi.Interface) (coloured : Bool) :
    let said (includeAbi : Bool) := Text.renderSpans coloured
      (summary ((s.withLooks includeAbi coloured).extracted path artifact interface))
    let rest := restOfOutput s { interface, artifact } coloured
    said false = "Found artifact at: " ++ path ++ "\n\n" ++ rest ∧
      said true =
        "Found artifact at: " ++ path ++ "\n\n" ++ Report.abiBlock coloured artifact ++ rest := by
  intro said rest
  have hsaid (includeAbi : Bool) : said includeAbi = "Found artifact at: " ++ path ++ "\n\n" ++
      ({ interface, artifact, includesAbi := includeAbi } : Report).render coloured ++ "\n" ++
        savedLines s ++ "\n" ++ successLine coloured :=
    render_summary (s.withLooks includeAbi coloured) path artifact interface
  have habi := Report.render_includingAbi coloured { interface, artifact }
  constructor
  · simp only [hsaid, rest, restOfOutput, String.append_assoc]
  · simp only [hsaid, rest, restOfOutput, habi, String.append_assoc]

theorem output_of_run {x : Extraction.Extracted} (hcommand : i.compileCommand? = some command)
    (h : (i.run s command d).1 = .ok x) (hquiet : i.quiet = false) :
    (i.execute s d).output =
      Text.renderSpans (i.settings s.outputWatched).coloured (summary x) := by
  rw [execute_of_run hcommand h]
  simp [hquiet]

/-! ## Two command lines -/

theorem ready_of_extract (hi : parse arguments = .ok i) (hextract : i.command = .extract)
    (s : Surroundings) (d : Disk) : i.ready s d = d := by
  have hnone : i.compileCmd = none := (writable_of_parse hi).extract hextract
  rw [Invocation.ready, hnone]
  rfl

/-- Two command lines that extract and differ in nothing but how they report have the same effects.
Where both report on a success, the output without colours is the one with them without their codes,
and the output with the interface has one section more. -/
theorem execute_looks {quiet printAbi : Bool} {color : ColorChoice}
    (hi : parse arguments = .ok i) (hextract : i.command = .extract)
    (hj : parse arguments' = .ok (i.withLooks quiet printAbi color))
    (s : Surroundings) (d : Disk) :
    let r := execute arguments s d
    let r' := execute arguments' s d
    let settings := i.settings s.outputWatched
    let coloured := i.color.applies s.outputWatched
    let coloured' := color.applies s.outputWatched
    r.SameEffects r' ∧
      (r.exitCode = 0 → i.quiet = false → quiet = false →
        ∃ path artifact interface, settings.Finds d path artifact interface ∧
          (printAbi = i.printAbi → coloured = true → coloured' = false →
            Readable settings path { interface, artifact } →
            Text.uncoloured r.output = r'.output) ∧
          (i.printAbi = false → printAbi = true → coloured' = coloured →
            let rest := restOfOutput settings { interface, artifact } coloured
            r.output = "Found artifact at: " ++ path ++ "\n\n" ++ rest ∧
              r'.output = "Found artifact at: " ++ path ++ "\n\n" ++
                Report.abiBlock coloured artifact ++ rest)) := by
  intro r r' settings coloured coloured'
  obtain ⟨command, hcommand⟩ := exists_compileCommand hi
  have hr : r = i.execute s d := by simp only [r, execute, hi]
  have hr' : r' = (i.withLooks quiet printAbi color).execute s d := by
    simp only [r', execute, hj]
  refine ⟨?_, fun hexit hquiet hquiet' => ?_⟩
  · rw [hr, hr']
    exact execute_withLooks quiet printAbi color hcommand s d
  · cases hrun : (i.run s command d).1 with
    | error e =>
      have hfails := (fails_of_run hcommand hrun).exitCode
      rw [← hr, hexit] at hfails
      simp at hfails
    | ok x =>
      obtain ⟨path, artifact, interface, hfinds, hx, -, -⟩ := written_of_run hcommand hrun
      rw [ready_of_extract hi hextract] at hfinds
      have hrun' : ((i.withLooks quiet printAbi color).run s command d).1 =
          .ok (x.withAbi printAbi) := by
        rw [invocationRun_withLooks, hrun]
        rfl
      have houtput : r.output = Text.renderSpans coloured (summary x) :=
        hr ▸ output_of_run hcommand hrun hquiet
      have houtput' : r'.output = Text.renderSpans coloured' (summary (x.withAbi printAbi)) :=
        hr' ▸ output_of_run hcommand hrun' hquiet'
      refine ⟨path, artifact, interface, hfinds, ?_, ?_⟩
      · intro hsame hcoloured hplain hreadable
        have hsameSaid : x.withAbi printAbi = x := by
          rw [hx, hsame]
          rfl
        rw [houtput, houtput', hcoloured, hplain, hsameSaid, hx]
        exact Text.uncoloured_renderSpans (clean_said hreadable)
      · intro hwithout hwith hsame rest
        obtain ⟨hfalse, htrue⟩ :=
          render_summary_withAbi settings path artifact interface coloured
        rw [houtput, houtput', hsame, hwith, hx]
        have hlooks : settings.withLooks false coloured = settings := hwithout ▸ rfl
        simp only [hlooks] at hfalse
        exact ⟨hfalse, htrue⟩

namespace Sample

open Extraction.Sample (both bothContracts declaring declared)

/-- A command line that extracts on a small disk. -/
def extraction (options : List String) : List String :=
  ["extract", "U", "--artifacts=.", "-o=.", "--no-module"] ++ options

/-- The invocation that is read from it. -/
def extractor (printAbi : Bool) (color : ColorChoice) : Invocation :=
  { command := .extract, contract := "U", artifacts := ".", outDir := ".", module := false,
    printAbi, color }

theorem finds_extractor (printAbi : Bool) (color : ColorChoice) :
    ((extractor printAbi color).settings false).Finds (both [] {}) "./contracts/U.sol/U.json"
      declaring declared := by
  have hpaths : Store.conventional ⟨"."⟩ "U" = ["./contracts/U.sol/U.json",
      "./contracts/U.SOL/U.json", "./contracts/U.sol/U.sol/U.json"] := by decide
  have hnames : Disk.Names "./contracts/U.sol/U.json" ["contracts", "U.sol", "U.json"] := by decide
  exact Extraction.finds_at_root Extraction.Sample.read_declaringText
    Extraction.Sample.interface_declaring hpaths hnames rfl

theorem written_extractor (printAbi : Bool) (color : ColorChoice) :
    ((both [] {}).writeOutputs
      (((extractor printAbi color).settings false).texts declaring declared)).failure = none := by
  have hpaths : ((extractor printAbi color).settings false).outputs.path .abiJson =
        "./U-abi.json" ∧
      ((extractor printAbi color).settings false).outputs.path .typescript =
        "./U-interface.ts" := by
    rw [show ((extractor printAbi color).settings false).outputs =
      Extraction.OutputPaths.inDir "." "U" from rfl]
    decide
  have hnames : (Disk.Names "./U-abi.json" ["U-abi.json"] ∧ Disk.HasNoParent "./U-abi.json") ∧
      Disk.Names "./U-interface.ts" ["U-interface.ts"] ∧
        Disk.HasNoParent "./U-interface.ts" := by decide
  rw [Extraction.texts_without_module rfl, hpaths.1, hpaths.2]
  -- nothing is yet where the outputs go
  let entries : List (String × Disk.Node) := Disk.Node.setEntry "U-abi.json"
    (.file (Text.toBytes declaring.abi.pretty)) [("contracts", bothContracts {})]
  have hfirst : (both [] {}).writeOutput "./U-abi.json" declaring.abi.pretty =
      (.ok (), Disk.atRoot entries) :=
    Disk.writeOutput_plain hnames.1.1 hnames.1.2 (by simp [List.lookup]) _
  have hnew : entries.lookup "U-interface.ts" = none := by
    simp [entries, Disk.Node.lookup_setEntry, List.lookup]
  have hsecond := Disk.writeOutput_plain hnames.2.1 hnames.2.2
    (show ∀ node, entries.lookup "U-interface.ts" = some node → _ by simp [hnew])
    (((extractor printAbi color).settings false).subject declaring declared).binding.typescript
  exact (Disk.writeOutputs_two hfirst hsecond).1

theorem exitCode_extraction {options : List String} {printAbi : Bool} {color : ColorChoice}
    (hparse : parse (extraction options) = .ok (extractor printAbi color)) :
    (execute (extraction options) (surroundings {}) (both [] {})).exitCode = 0 := by
  let i := extractor printAbi color
  have hcommand : i.compileCommand? = some Compile.Command.usual := rfl
  have hcompiled : (Extraction.compiled ((surroundings {}).compiler Compile.Command.usual)
      (i.settings false) { disk := both [] {} }).result = .ok () := rfl
  have hexecute : execute (extraction options) (surroundings {}) (both [] {}) =
      i.execute (surroundings {}) (both [] {}) := by simp only [execute, hparse, i]
  rw [hexecute]
  exact (succeeds_of_finds hcommand hcompiled (finds_extractor printAbi color)
    (written_extractor printAbi color)).1

end Sample

/-- The same extraction with colours and with the interface in its report. -/
theorem execute_looks_extraction :
    let d := Extraction.Sample.both [] {}
    let r (options : List String) := execute (Sample.extraction options) (Sample.surroundings {}) d
    (r ["--color=always"]).SameEffects (r []) ∧
      Text.uncoloured (r ["--color=always"]).output = (r []).output ∧
      let found := "Found artifact at: " ++ "./contracts/U.sol/U.json" ++ "\n\n"
      let rest := restOfOutput ((Sample.extractor false .auto).settings false)
        { interface := Extraction.Sample.declared, artifact := Extraction.Sample.declaring } false
      (r []).output = found ++ rest ∧
        (r ["--print-abi"]).output =
          found ++ Report.abiBlock false Extraction.Sample.declaring ++ rest := by
  intro d r
  have hplain : parse (Sample.extraction []) = .ok (Sample.extractor false .auto) := rfl
  have hcoloured : parse (Sample.extraction ["--color=always"]) =
      .ok (Sample.extractor false .always) := rfl
  have hwithAbi : parse (Sample.extraction ["--print-abi"]) = .ok (Sample.extractor true .auto) :=
    rfl
  obtain ⟨heffects, huncoloured⟩ := execute_looks hcoloured rfl
    (show _ = Except.ok ((Sample.extractor false .always).withLooks false false .auto) from hplain)
    (Sample.surroundings {}) d
  obtain ⟨path, artifact, interface, hfinds, huncoloured, -⟩ :=
    huncoloured (Sample.exitCode_extraction hcoloured) rfl rfl
  obtain ⟨rfl, rfl, rfl⟩ := (Sample.finds_extractor false .always).unique hfinds
  have hreadable : Readable ((Sample.extractor false .always).settings false)
      "./contracts/U.sol/U.json"
      { interface := Extraction.Sample.declared, artifact := Extraction.Sample.declaring } :=
    ⟨by decide, by decide, by decide⟩
  obtain ⟨-, hsection⟩ := execute_looks hplain rfl
    (show _ = Except.ok ((Sample.extractor false .auto).withLooks false true .auto) from hwithAbi)
    (Sample.surroundings {}) d
  obtain ⟨path, artifact, interface, hfinds, -, hsection⟩ :=
    hsection (Sample.exitCode_extraction hplain) rfl rfl
  obtain ⟨rfl, rfl, rfl⟩ := (Sample.finds_extractor false .auto).unique hfinds
  obtain ⟨hwithout, hwith⟩ := hsection rfl rfl rfl
  exact ⟨heffects, huncoloured rfl rfl rfl hreadable, hwithout, hwith⟩

end ContractBindings.CommandLine
