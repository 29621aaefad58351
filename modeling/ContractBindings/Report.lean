import ContractBindings.Abi.Interface
import ContractBindings.Artifact.Basic
import ContractBindings.Json.Printer
import ContractBindings.Text.Ink

/-!
# Reports

What a reader at a terminal is told about a contract: sections with a heading, for the functions,
the events, the constructor if there is one, and the artifact itself. A report is a list of spans,
so that colours cannot change what it says.
-/

namespace ContractBindings

open Text (Span plain)

/-- What a report is about. -/
structure Report where
  interface : Abi.Interface
  artifact : Artifact
  /-- The report begins with the interface as JSON. -/
  includesAbi : Bool := false

namespace Report

/-- Lists of spans, with the same spans between each two. -/
def separated (between : List Span) (parts : List (List Span)) : List Span :=
  (parts.intersperse between).flatten

/-- A section: its heading, a line below it as long as the heading, and the body. -/
def titled (title : String) (body : List Span) : List Span :=
  let heading := title ++ ":"
  [⟨.bold, heading⟩, plain "\n", ⟨.dim, String.ofList (List.replicate heading.length '=')⟩,
    plain "\n"] ++ body

/-- The spans, or a word for nothing. -/
def orNone (lines : List Span) : List Span :=
  if lines.isEmpty then [plain "(none)\n"] else lines

/-- A parameter: its type, and its name if it has one. -/
def param (p : Abi.Param) : List Span :=
  ⟨.green, p.type⟩ :: if p.name.isEmpty then [] else [plain (" " ++ p.name)]

/-- Parameters with a comma between each two. -/
def params (ps : List Abi.Param) : List Span :=
  separated [plain ", "] (ps.map param)

/-- The results of a function. -/
def results (outputs : List Abi.Param) : List Span :=
  if outputs.isEmpty then [plain "void"]
  else separated [plain ", "] (outputs.map fun p => [⟨.green, p.type⟩])

/-- A numbered name with its parameters; `index` counts from zero. -/
def numbered (index : Nat) (name : String) (inputs : List Abi.Param) : List Span :=
  [⟨.dim, toString (index + 1) ++ "."⟩, plain " ", ⟨.blue, name⟩, plain "("] ++ params inputs ++
    [plain ")"]

/-- The line of a function. -/
def functionLine (index : Nat) (f : Abi.Function) : List Span :=
  numbered index f.name f.inputs ++ [plain " -> "] ++ results f.outputs ++
    [plain " ", ⟨.yellow, "(" ++ f.mutability.name ++ ")"⟩, plain "\n"]

/-- The line of an event. -/
def eventLine (index : Nat) (e : Abi.Event) : List Span :=
  numbered index e.name e.inputs ++ [plain "\n"]

/-- The line of a constructor. -/
def constructorLine (c : Abi.Constructor) : List Span :=
  [⟨.blue, "constructor"⟩, plain "("] ++ params c.inputs ++ [plain ")\n"]

/-- A line of the section about the artifact. -/
def detail (label value : String) : List Span :=
  [⟨.dim, label ++ ":"⟩, plain (" " ++ value ++ "\n")]

/-- The lines about the artifact. -/
def details (a : Artifact) : List Span :=
  detail "Contract Name" a.contractName ++
    detail "Source Name" a.sourceName ++
    detail "Compiler Version" (a.compilerVersion.getD "Unknown") ++
    detail "Bytecode size" (toString a.bytecodeSize ++ " bytes") ++
    detail "Deployed bytecode size" (toString a.deployedBytecodeSize ++ " bytes")

/-- The section that holds the interface as JSON. -/
def abiSection (r : Report) : List Span :=
  titled "CONTRACT ABI" [plain (r.artifact.abi.pretty ++ "\n")]

/-- The sections that every report has, and the one about the constructor. -/
def summary (r : Report) : List (List Span) :=
  [titled "CONTRACT FUNCTIONS" (orNone (r.interface.functions.mapIdx functionLine).flatten),
    titled "CONTRACT EVENTS" (orNone (r.interface.events.mapIdx eventLine).flatten)] ++
  (r.interface.constructor.map fun c => titled "CONSTRUCTOR" (constructorLine c)).toList ++
  [titled "CONTRACT DETAILS" (details r.artifact)]

/-- The whole report, with an empty line between two sections. -/
def spans (r : Report) : List Span :=
  separated [plain "\n"] (if r.includesAbi then r.abiSection :: r.summary else r.summary)

/-- The text of the report. -/
def render (coloured : Bool) (r : Report) : String :=
  Text.renderSpans coloured r.spans

end Report

end ContractBindings
