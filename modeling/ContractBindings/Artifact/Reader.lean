import ContractBindings.Artifact.Basic
import ContractBindings.Json.Skim

/-!
# Reading an artifact

An artifact is read straight from its text: an object with known fields, or an array of them in
their order. The fields are read as they come, so the first fault in the text is the one reported;
the values of unknown fields are only skipped.

A fault of the whole record (a field missing or given twice) has no place of its own. It is placed
where the record would end: after the closing bracket if that comes next.
-/

namespace ContractBindings.Artifact

open Json (Scan Stop ShapeFault Expected skipSpaces stop)

/-- The names of the fields. -/
inductive FieldName where
  | contractName
  | sourceName
  | abi
  | bytecode
  | deployedBytecode
  | metadata
  deriving DecidableEq, Repr

namespace FieldName

/-- The fields in their order. -/
def all : List FieldName :=
  [.contractName, .sourceName, .abi, .bytecode, .deployedBytecode, .metadata]

/-- The key of a field. -/
def key : FieldName → String
  | .contractName => "contractName"
  | .sourceName => "sourceName"
  | .abi => "abi"
  | .bytecode => "bytecode"
  | .deployedBytecode => "deployedBytecode"
  | .metadata => "metadata"

/-- The field of a key. -/
def ofKey? (s : String) : Option FieldName := all.find? (·.key == s)

/-- The place of a field in their order. -/
def index (name : FieldName) : Nat := all.idxOf name

end FieldName

/-- A field with its value. -/
inductive Field where
  | contractName (value : String)
  | sourceName (value : String)
  | abi (value : Json)
  | bytecode (value : String)
  | deployedBytecode (value : String)
  | metadata (value : Option String)

namespace Field

/-- The name of a field. -/
def label : Field → FieldName
  | .contractName _ => .contractName
  | .sourceName _ => .sourceName
  | .abi _ => .abi
  | .bytecode _ => .bytecode
  | .deployedBytecode _ => .deployedBytecode
  | .metadata _ => .metadata

/-- The value, if this is the contract's name. -/
def contractName? : Field → Option String
  | .contractName s => some s
  | _ => none

/-- The value, if this is the source's name. -/
def sourceName? : Field → Option String
  | .sourceName s => some s
  | _ => none

/-- The value, if this is the interface. -/
def abi? : Field → Option Json
  | .abi v => some v
  | _ => none

/-- The value, if this is the creation code. -/
def bytecode? : Field → Option String
  | .bytecode s => some s
  | _ => none

/-- The value, if this is the code on the chain. -/
def deployedBytecode? : Field → Option String
  | .deployedBytecode s => some s
  | _ => none

/-- The value, if these are the metadata. -/
def metadata? : Field → Option (Option String)
  | .metadata s => some s
  | _ => none

end Field

/-- Puts an artifact together, or says which required field is not there. -/
def ofFields (fields : List Field) : Except FieldName Artifact :=
  match fields.findSome? (·.contractName?), fields.findSome? (·.abi?) with
  | none, _ => .error .contractName
  | some _, none => .error .abi
  | some contractName, some abi =>
    .ok
      { contractName
        sourceName := (fields.findSome? (·.sourceName?)).getD ""
        abi
        bytecode := (fields.findSome? (·.bytecode?)).getD ""
        deployedBytecode := (fields.findSome? (·.deployedBytecode?)).getD ""
        metadata := (fields.findSome? (·.metadata?)).getD none }

/-! ## Single values -/

/-- Stops with a shape fault. -/
def misshapen {α : Type} (fault : ShapeFault) (rest : List Char) : Except Stop α :=
  .error ⟨.shapeFault fault, rest, 0⟩

/-- Stops at a value of another kind than expected: after it, or before it if it is an array or an
object. Its own syntax goes first. -/
def unexpected {α : Type} (expected : Expected) (s : List Char) : Except Stop α :=
  let wrong (found : Json.Found) (rest : List Char) : Except Stop α :=
    misshapen (.wrongKind found expected) rest
  let number (p : Json.Number × List Char) : Except Stop α := wrong (.number p.1) p.2
  match s with
  | 'n' :: rest => (Json.readLiteral ['u', 'l', 'l'] rest).bind (wrong .null)
  | 't' :: rest => (Json.readLiteral ['r', 'u', 'e'] rest).bind (wrong (.boolean true))
  | 'f' :: rest => (Json.readLiteral ['a', 'l', 's', 'e'] rest).bind (wrong (.boolean false))
  | '-' :: rest => (Json.readDigits true rest).bind number
  | '"' :: rest => (Json.readText rest).bind fun p => wrong (.text p.1) p.2
  | '[' :: _ => wrong .array s
  | '{' :: _ => wrong .object s
  | c :: _ =>
    if c.isDigit then (Json.readDigits false s).bind number else stop .missingValue s 1
  | [] => stop .endInValue [] 0

/-- Reads a text. -/
def readString (s : List Char) : Scan String :=
  match skipSpaces s with
  | '"' :: rest => Json.readText rest
  | s => unexpected .text s

/-- Reads a text or `null`. -/
def readOptionalString (s : List Char) : Scan (Option String) :=
  match skipSpaces s with
  | 'n' :: rest => (Json.readLiteral ['u', 'l', 'l'] rest).map (none, ·)
  | s => (readString s).map fun p => (some p.1, p.2)

/-- Reads the value of a field. The interface lies one level deep in the text. -/
def readField (fuel : Nat) (name : FieldName) (s : List Char) : Scan Field :=
  match name with
  | .contractName => (readString s).map fun p => (.contractName p.1, p.2)
  | .sourceName => (readString s).map fun p => (.sourceName p.1, p.2)
  | .abi => (Json.readValue fuel (Json.depthLimit - 1) s).map fun p => (.abi p.1, p.2)
  | .bytecode => (readString s).map fun p => (.bytecode p.1, p.2)
  | .deployedBytecode => (readString s).map fun p => (.deployedBytecode p.1, p.2)
  | .metadata => (readOptionalString s).map fun p => (.metadata p.1, p.2)

/-! ## Records -/

/-- Where a fault of a whole object is placed. -/
def afterBrace (s : List Char) : List Char :=
  match skipSpaces s with
  | '}' :: rest => rest
  | s => s

/-- Reads a member after the opening quote of its key, the members after it and the closing
brace. `fields` holds the fields read so far, last one first. -/
def readMembers : Nat → List Field → List Char → Scan (List Field)
  | 0, _, s => stop .endInValue s 0
  | fuel + 1, fields, s =>
    match Json.readText s with
    | .error e => .error e
    | .ok (key, s) =>
      let known := FieldName.ofKey? key
      if fields.any fun field => some field.label == known then
        misshapen (.repeatedField key) (afterBrace s)
      else
        match skipSpaces s with
        | [] => stop .endInObject [] 0
        | ':' :: s =>
          let value : Scan (List Field) :=
            match known with
            | some name => (readField fuel name s).map fun p => (p.1 :: fields, p.2)
            | none => (Json.skimValue fuel s).map (fields, ·)
          match value with
          | .error e => .error e
          | .ok (fields, s) =>
            match skipSpaces s with
            | [] => stop .endInObject [] 0
            | '}' :: rest => .ok (fields, rest)
            | ',' :: rest =>
              match skipSpaces rest with
              | [] => stop .endInValue [] 0
              | '"' :: s => readMembers fuel fields s
              | '}' :: rest => stop .trailingComma ('}' :: rest) 1
              | s => stop .badKey s 1
            | s => stop .missingMemberEnd s 1
        | s => stop .missingColon s 1

/-- Reads the elements of an array as the fields of these names, up to the closing bracket or to
the last field. -/
def readElements (fuel : Nat) (first : Bool) : List FieldName → List Char → Scan (List Field)
  | [], s => .ok ([], s)
  | name :: names, s =>
    let more (s : List Char) : Scan (List Field) :=
      match readField fuel name s with
      | .error e => .error e
      | .ok (field, s) => (readElements fuel false names s).map fun p => (field :: p.1, p.2)
    match skipSpaces s with
    | [] => stop .endInArray [] 0
    | ']' :: rest => .ok ([], ']' :: rest)
    | c :: rest =>
      if first then more (c :: rest)
      else if c = ',' then
        match skipSpaces rest with
        | [] => stop .endInValue [] 0
        | ']' :: rest => stop .trailingComma (']' :: rest) 1
        | s => more s
      else stop .missingElementEnd (c :: rest) 1

/-- Reads the closing bracket. -/
def closeArray (s : List Char) : Except Stop (List Char) :=
  match skipSpaces s with
  | [] => stop .endInArray [] 0
  | ']' :: rest => .ok rest
  | ',' :: rest =>
    match skipSpaces rest with
    | ']' :: rest => stop .trailingComma (']' :: rest) 1
    | s => stop .trailingCharacters s 1
  | s => stop .trailingCharacters s 1

/-- The name of the record in faults. -/
def recordName : String := "Artifact"

/-- Puts an artifact together from the members of an object that ends before `rest`. -/
def ofMembers (p : List Field × List Char) : Scan Artifact :=
  match ofFields p.1 with
  | .ok a => .ok (a, p.2)
  | .error name => misshapen (.missingField name.key) p.2

/-- Puts an artifact together from the elements of an array that has `rest` left. -/
def ofElements (p : List Field × List Char) : Scan Artifact :=
  match ofFields p.1 with
  | .ok a => (closeArray p.2).map (a, ·)
  | .error name =>
    let rest : List Char :=
      match closeArray p.2 with
      | .ok rest => rest
      | .error _ => p.2
    misshapen (.wrongLength name.index (.recordOf recordName FieldName.all.length)) rest

/-- Reads an artifact. -/
def readRecord (fuel : Nat) (s : List Char) : Scan Artifact :=
  match skipSpaces s with
  | [] => stop .endInValue [] 0
  | '{' :: rest =>
    match skipSpaces rest with
    | [] => stop .endInObject [] 0
    | '}' :: rest => ofMembers ([], rest)
    | '"' :: s => (readMembers fuel [] s).bind ofMembers
    | s => stop .badKey s 1
  | '[' :: rest => (readElements fuel true FieldName.all rest).bind ofElements
  | s => unexpected (.record recordName) s

/-- Reads the artifact that a text holds. -/
def read (text : String) : Except Json.PlacedFault Artifact :=
  Json.readWhole readRecord text

end ContractBindings.Artifact
