import ContractBindings.CommandLine.Parser
import ContractBindings.Compile.Command
import ContractBindings.Extraction.Run
import ContractBindings.Log.Line

/-!
# The program

What the program does with its arguments: it runs an extraction and tells how that went. How a
command is run to compile is left to the program's surroundings (`Surroundings`).
-/

namespace ContractBindings.CommandLine

open Text (Span plain)

/-- What a program does not decide for itself. -/
structure Surroundings where
  /-- What running a command comes to. -/
  compiler : Compile.Command → Compile.Compiler
  /-- Someone reads the output along. -/
  outputWatched : Bool := false
  /-- Someone reads the log along. -/
  logWatched : Bool := false
  /-- Which entries of the log were asked for, apart from the arguments. -/
  logFilter : Option Log.Filter := none
  /-- How the log writes the time. -/
  time : String := ""

/-- What a program leaves behind. -/
structure Response where
  exitCode : Nat
  output : String := ""
  /-- What is said about a mistake or an error. -/
  complaint : String := ""
  log : List Log.Entry := []
  disk : Disk

/-- The settings that an invocation asks for, where `watched` says whether someone reads the output
along. -/
def Invocation.settings (i : Invocation) (watched : Bool) : Extraction.Settings :=
  { contract := i.contract
    artifactsDir := i.artifacts
    outputs := Extraction.OutputPaths.inDir i.outDir i.contract
    skipCompile := i.compileCmd.isNone
    emitModule := i.module
    embedBytecode := i.embedBytecode
    includeAbi := i.printAbi
    exported := i.exported
    coloured := i.color.applies watched }

/-- The line about an output that was written. -/
def writtenLine (output : Extraction.Output) (path : String) : String :=
  output.label ++ " saved to: " ++ path ++ "\n"

/-- What is said about an extraction that succeeded. -/
def summary (x : Extraction.Extracted) : List Span :=
  [plain ("Found artifact at: " ++ x.artifactPath ++ "\n\n")] ++ x.report.spans ++ [plain "\n"] ++
    x.written.map (fun (output, path) => plain (writtenLine output path)) ++
    [plain "\n", ⟨.green, "ABI extraction completed successfully!"⟩, plain "\n"]

/-- What is said about an error. -/
def errorText (e : Extraction.Error) : String :=
  "error: " ++ e.message ++ "\n" ++
    match e.remediation with
    | some hint => "hint: " ++ hint ++ "\n"
    | none => ""

/-- The command that compiles for an invocation; an invocation that compiles nothing has the usual
one. A blank line is no command. -/
def Invocation.compileCommand? (i : Invocation) : Option Compile.Command :=
  match i.compileCmd with
  | none => some Compile.Command.usual
  | some line => Compile.Command.ofLine? line

/-- Carries out an invocation. -/
def Invocation.execute (i : Invocation) (s : Surroundings) (d : Disk) : Response :=
  match i.compileCommand? with
  | none =>
    { exitCode := 1, complaint := "error: compile command cannot be blank\n", disk := d }
  | some command =>
    let settings := i.settings s.outputWatched
    match Extraction.run (s.compiler command) settings { disk := d } with
    | (.ok x, w) =>
      { exitCode := 0
        output := if i.quiet then "" else Text.renderSpans settings.coloured (summary x)
        log := w.log
        disk := w.disk }
    | (.error e, w) =>
      { exitCode := 1, complaint := errorText e, log := w.log, disk := w.disk }

/-- What becomes of arguments that cannot be used. Help that was asked for is output. -/
def Usage.response (u : Usage) (d : Disk) : Response :=
  match u with
  | .help topic => { exitCode := u.exitCode, output := topic.text, disk := d }
  | u => { exitCode := u.exitCode, complaint := u.complaint, disk := d }

/-- What the program does with its arguments. -/
def execute (arguments : List String) (s : Surroundings) (d : Disk) : Response :=
  match parse arguments with
  | .ok i => i.execute s d
  | .error u => u.response d

/-- The lines of the log that the program writes before it complains. -/
def logText (arguments : List String) (s : Surroundings) (entries : List Log.Entry) : String :=
  match parse arguments with
  | .ok i =>
    let filter := s.logFilter.getD (Log.Filter.ofVerbosity i.verbose)
    Text.renderSpans (i.color.applies s.logWatched) (Log.lines filter s.time entries)
  | .error _ => ""

end ContractBindings.CommandLine
