import ContractBindings.Abi.Interface
import ContractBindings.Json.Printer
import ContractBindings.Naming.Declarations
import ContractBindings.Naming.Parameters
import ContractBindings.TypeScript.Type

/-!
# Bindings

The TypeScript declarations that describe a contract to its callers, block by block, and a module
that holds the interface for those without types. Each block ends in a line end.

* `Subject`: what a binding is made from.
* `Subject.binding`: the blocks.
* `Binding.typescript`: the text of the file, with an empty line between two blocks.
-/

namespace ContractBindings.TypeScript

/-- The blocks of a binding. -/
structure Binding where
  /-- What the file is, and the import that it needs. -/
  header : String
  /-- The interface of the contract, with a signature for each function. -/
  contractInterface : String
  /-- The map from events to what they carry, if there are events. -/
  events : Option String
  /-- The parameters of the constructor, if there is one. -/
  constructorParams : Option String
  /-- The interface as a constant. -/
  abiConstant : String
  /-- The creation code as a constant. -/
  bytecodeConstant : String
  /-- The type of the deploying function. -/
  deployType : String
  /-- A module of its own that holds the interface. -/
  module : String

namespace Binding

/-- The blocks that declare types, up to the deploying function. -/
def typeBlocks (b : Binding) : List String :=
  [b.header, b.contractInterface] ++ b.events.toList ++ b.constructorParams.toList

/-- Blocks with an empty line between each two. -/
def joined (blocks : List String) : String :=
  String.intercalate "\n" blocks

/-- The text of the TypeScript file. -/
def typescript (b : Binding) : String :=
  joined (b.typeBlocks ++ [b.abiConstant, b.bytecodeConstant, b.deployType])

/-- The declarations of types alone, without the constants. -/
def declarations (b : Binding) : String :=
  joined (b.typeBlocks ++ [b.deployType])

end Binding

/-- What may be chosen about a binding. -/
structure Options where
  /-- The declarations can be imported. -/
  exported : Bool := true
  /-- The creation code to put into the binding. -/
  bytecode : Option String := none

/-- What a binding is made from. -/
structure Subject where
  /-- The name of the contract. -/
  contract : String
  /-- The members of the interface. -/
  interface : Abi.Interface
  /-- The interface as it came. -/
  abi : Json
  options : Options := {}

/-! ## Parameters and results -/

/-- A name with a type. -/
structure Field where
  name : String
  type : TsType
  deriving DecidableEq, Repr

/-- The field as generated code writes it. -/
def Field.text (f : Field) : String := f.name ++ ": " ++ f.type.text

/-- The parameters, with the names that generated code gives them. -/
def fields (params : List Abi.Param) : List Field :=
  List.zipWith Field.mk (Naming.paramNames params) (params.map fun p => TsType.ofAbi p.type)

/-- Fields with a comma between each two. -/
def fieldList (fs : List Field) : String :=
  String.intercalate ", " (fs.map Field.text)

/-- What the call of a function promises. -/
inductive Outcome where
  /-- A transaction that is not yet part of the chain. -/
  | transaction
  /-- Nothing. -/
  | void
  /-- One value. -/
  | single (type : TsType)
  /-- Several values. -/
  | several (types : List TsType)
  deriving DecidableEq, Repr

/-- The outcome of a function: calls that only read give its results, and all others a
transaction. -/
def Outcome.of (f : Abi.Function) : Outcome :=
  if f.isReadOnly then
    match f.outputs.map fun p => TsType.ofAbi p.type with
    | [] => .void
    | [type] => .single type
    | types => .several types
  else .transaction

/-- The outcome as generated code writes it. -/
def Outcome.text : Outcome → String
  | .transaction => "ethers.ContractTransactionResponse"
  | .void => "void"
  | .single type => type.text
  | .several types => "[" ++ String.intercalate ", " (types.map TsType.text) ++ "]"

/-- The signature of a function, as a line of its own. -/
def signature (f : Abi.Function) : String :=
  "  " ++ f.name ++ "(" ++ fieldList (fields f.inputs) ++ "): Promise<" ++ (Outcome.of f).text ++
    ">;\n"

/-! ## Events -/

/-- The events that have the name of none before them, after events of the names `seen`. -/
def firstEventsFrom (seen : List String) : List Abi.Event → List Abi.Event
  | [] => []
  | e :: rest =>
    if e.name ∈ seen then firstEventsFrom seen rest
    else e :: firstEventsFrom (e.name :: seen) rest

/-- The first event of each name. A map can hold no more. -/
def firstEvents (events : List Abi.Event) : List Abi.Event :=
  firstEventsFrom [] events

/-- The events that have the name of an earlier one, after events of the names `seen`. -/
def repeatedEventsFrom (seen : List String) : List Abi.Event → List Abi.Event
  | [] => []
  | e :: rest =>
    if e.name ∈ seen then e :: repeatedEventsFrom seen rest
    else repeatedEventsFrom (e.name :: seen) rest

/-- The events that a map leaves out. -/
def repeatedEvents (events : List Abi.Event) : List Abi.Event :=
  repeatedEventsFrom [] events

/-- The entry of an event in the map, as a line of its own. -/
def eventEntry (e : Abi.Event) : String :=
  "  " ++ e.name ++ ": \x7b" ++
    (if e.inputs.isEmpty then "" else " " ++ fieldList (fields e.inputs) ++ " ") ++ "\x7d;\n"

/-! ## Blocks -/

namespace Subject

/-- The names of the declarations. -/
def names (s : Subject) : Naming.Declarations := Naming.Declarations.ofContract s.contract

/-- What stands before a declaration. -/
def exporting (s : Subject) : String := if s.options.exported then "export " else ""

/-- What the file is, and the import that it needs. -/
def header (s : Subject) : String :=
  "// Generated TypeScript interface for " ++ s.contract ++ " contract\n" ++
    "// This file is auto-generated - do not edit manually\n" ++
    "import \x7b ethers \x7d from 'ethers';\n"

/-- The interface of the contract. -/
def contractInterface (s : Subject) : String :=
  s.exporting ++ "interface " ++ s.names.contract ++ " extends ethers.Contract \x7b\n" ++
    String.join (s.interface.functions.map signature) ++ "\x7d\n"

/-- The map of events. -/
def events (s : Subject) : Option String :=
  if s.interface.events.isEmpty then none
  else
    some (s.exporting ++ "interface " ++ s.names.events ++ " \x7b\n" ++
      String.join ((firstEvents s.interface.events).map eventEntry) ++ "\x7d\n")

/-- The parameters of the constructor. -/
def constructorParams (s : Subject) : Option String :=
  s.interface.constructor.map fun c =>
    s.exporting ++ "type " ++ s.names.constructorParams ++ " = \x7b" ++
      (if c.inputs.isEmpty then ""
        else "\n" ++ String.join ((fields c.inputs).map fun f => "  " ++ f.text ++ ";\n")) ++
      "\x7d;\n"

/-- The interface as a constant. -/
def abiConstant (s : Subject) : String :=
  s.exporting ++ "const " ++ s.names.abiConstant ++ " = " ++ s.abi.pretty ++ " as const;\n"

/-- The creation code as a constant, empty unless it was asked for. -/
def bytecodeConstant (s : Subject) : String :=
  s.exporting ++ "const " ++ s.names.bytecodeConstant ++ " = \"" ++
    s.options.bytecode.getD "" ++ "\";\n"

/-- The parameters of the deploying function: who signs, then what the constructor takes. -/
def deployParams (s : Subject) : List String :=
  "signer: ethers.Signer" ::
    match s.interface.constructor with
    | some c => (fields c.inputs).map Field.text
    | none => []

/-- The type of the deploying function. -/
def deployType (s : Subject) : String :=
  s.exporting ++ "type " ++ s.names.deploy ++ " = (\n  " ++
    String.intercalate ",\n  " s.deployParams ++ "\n) => Promise<" ++ s.names.contract ++ ">;\n"

/-- The module that holds the interface. -/
def module (s : Subject) : String :=
  "// " ++ s.contract ++ " Contract ABI\nmodule.exports = " ++ s.abi.pretty ++ ";\n"

/-- The binding. -/
def binding (s : Subject) : Binding where
  header := s.header
  contractInterface := s.contractInterface
  events := s.events
  constructorParams := s.constructorParams
  abiConstant := s.abiConstant
  bytecodeConstant := s.bytecodeConstant
  deployType := s.deployType
  module := s.module

end Subject

end ContractBindings.TypeScript
