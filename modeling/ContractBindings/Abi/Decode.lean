import ContractBindings.Abi.Member
import ContractBindings.Json.Fault

/-!
# Members of an interface from JSON

A record is given as an object, or as an array of its fields in their order with trailing fields
left out. Both forms are first read as a list of typed fields (`Param.Field`, `Member.Field`), in
the order of the text, so the first fault of the text is the one reported; then the record is put
together from that list. Unknown keys count for nothing, and only optional fields take `null`.

* `Param.ofJson` reads a parameter.
* `Member.ofJson` reads a member: its tag first, then the fields that its kind knows.
-/

namespace ContractBindings.Json

/-- A value of another kind than expected. -/
def wrongKind {α : Type} (v : Json) (expected : Expected) : Except ShapeFault α :=
  .error (.wrongKind v.found expected)

/-- The text of a text. -/
def toText : Json → Except ShapeFault String
  | .text s => .ok s
  | v => wrongKind v .text

/-- The truth of a boolean. -/
def toBoolean : Json → Except ShapeFault Bool
  | .bool b => .ok b
  | v => wrongKind v .boolean

/-- Reads a value that may be `null`. -/
def toOptional {α : Type} (reader : Json → Except ShapeFault α) :
    Json → Except ShapeFault (Option α)
  | .null => .ok none
  | v => (reader v).map some

end ContractBindings.Json

namespace ContractBindings.Abi

open Json (ShapeFault Expected)

/-! ## Parameters -/

/-- The names of a parameter's fields. -/
inductive Param.FieldName where
  | name
  | type
  | internalType
  | indexed
  | components
  deriving DecidableEq, Repr

namespace Param.FieldName

/-- The fields in their order. -/
def all : List Param.FieldName := [.name, .type, .internalType, .indexed, .components]

/-- The key of a field. -/
def key : Param.FieldName → String
  | .name => "name"
  | .type => "type"
  | .internalType => "internalType"
  | .indexed => "indexed"
  | .components => "components"

/-- The field of a key. -/
def ofKey? (s : String) : Option Param.FieldName := all.find? (·.key == s)

end Param.FieldName

/-- A field of a parameter with its value. -/
inductive Param.Field where
  | name (value : String)
  | type (value : String)
  | internalType (value : Option String)
  | indexed (value : Option Bool)
  | components (value : List Param)

namespace Param.Field

/-- The value, if this is the name. -/
def name? : Param.Field → Option String
  | .name s => some s
  | _ => none

/-- The value, if this is the type. -/
def type? : Param.Field → Option String
  | .type s => some s
  | _ => none

/-- The value, if this is the type's name in the source. -/
def internalType? : Param.Field → Option (Option String)
  | .internalType s => some s
  | _ => none

/-- The value, if this is the mark of an indexed parameter. -/
def indexed? : Param.Field → Option (Option Bool)
  | .indexed b => some b
  | _ => none

/-- The value, if these are the components. -/
def components? : Param.Field → Option (List Param)
  | .components ps => some ps
  | _ => none

end Param.Field

/-- Puts a parameter together. Only the type is required. -/
def Param.ofFields? (fields : List Param.Field) : Option Param :=
  (fields.findSome? (·.type?)).map fun type =>
    .mk ((fields.findSome? (·.name?)).getD "") type
      ((fields.findSome? (·.internalType?)).getD none)
      ((fields.findSome? (·.indexed?)).getD none)
      ((fields.findSome? (·.components?)).getD [])

/-- The expectation of a whole parameter. -/
def Param.expected : Expected := .record "Param"

/-- The expectation of a parameter given as an array. -/
def Param.expectedElements : Expected := .recordOf "Param" Param.FieldName.all.length

mutual

/-- Reads a parameter. -/
def Param.ofJson : Json → Except ShapeFault Param
  | .object members =>
    match Param.fieldsOfMembers members with
    | .error e => .error e
    | .ok fields =>
      match Param.ofFields? fields with
      | some p => .ok p
      | none => .error (.missingField Param.FieldName.type.key)
  | .array elements =>
    match Param.fieldsOfElements Param.FieldName.all elements with
    | .error e => .error e
    | .ok fields =>
      match Param.ofFields? fields with
      | some p =>
        if elements.length ≤ Param.FieldName.all.length then .ok p
        else .error (.wrongLength elements.length (.elements Param.FieldName.all.length))
      | none => .error (.wrongLength 1 Param.expectedElements)
  | v => Json.wrongKind v Param.expected

/-- Reads the known members of an object. -/
def Param.fieldsOfMembers : List (String × Json) → Except ShapeFault (List Param.Field)
  | [] => .ok []
  | (key, v) :: rest =>
    match Param.FieldName.ofKey? key with
    | none => Param.fieldsOfMembers rest
    | some slot =>
      match Param.fieldOf slot v with
      | .error e => .error e
      | .ok field => (Param.fieldsOfMembers rest).map (field :: ·)

/-- Reads the elements of an array as the fields of these names. -/
def Param.fieldsOfElements : List Param.FieldName → List Json → Except ShapeFault (List Param.Field)
  | slot :: slots, v :: rest =>
    match Param.fieldOf slot v with
    | .error e => .error e
    | .ok field => (Param.fieldsOfElements slots rest).map (field :: ·)
  | _, _ => .ok []

/-- Reads one field. -/
def Param.fieldOf (slot : Param.FieldName) (v : Json) : Except ShapeFault Param.Field :=
  match slot with
  | .name => v.toText.map .name
  | .type => v.toText.map .type
  | .internalType => (v.toOptional Json.toText).map .internalType
  | .indexed => (v.toOptional Json.toBoolean).map .indexed
  | .components =>
    match v with
    | .array elements => (Param.listOf elements).map .components
    | v => Json.wrongKind v .array

/-- Reads a list of parameters. -/
def Param.listOf : List Json → Except ShapeFault (List Param)
  | [] => .ok []
  | v :: rest =>
    match Param.ofJson v with
    | .error e => .error e
    | .ok p => (Param.listOf rest).map (p :: ·)

end

/-- Reads a list of parameters from an array. -/
def Param.listOfJson : Json → Except ShapeFault (List Param)
  | .array elements => Param.listOf elements
  | v => Json.wrongKind v .array

/-! ## Mutability -/

/-- Reads the name of an alternative. -/
def Mutability.ofText (s : String) : Except ShapeFault Mutability :=
  match Mutability.ofName? s with
  | some m => .ok m
  | none => .error (.unknownAlternative s (Mutability.all.map Mutability.name))

/-- Reads a mutability: its name, or an object whose one key is the name and whose value is
nothing, that is `null` or an empty object. -/
def Mutability.ofJson : Json → Except ShapeFault Mutability
  | .text s => Mutability.ofText s
  | .object [(key, v)] =>
    match Mutability.ofText key with
    | .error e => .error e
    | .ok m =>
      match v with
      | .null => .ok m
      | .object [] => .ok m
      | v => Json.wrongKind v .nothing
  | .object _ => .error (.wrongContent .object .singleKey)
  | v => Json.wrongKind v .textOrObject

/-! ## Members -/

/-- The names of the fields of members. -/
inductive Member.FieldName where
  | name
  | inputs
  | outputs
  | stateMutability
  | constant
  | payable
  | anonymous
  deriving DecidableEq, Repr

namespace Member.FieldName

/-- The key of a field. -/
def key : Member.FieldName → String
  | .name => "name"
  | .inputs => "inputs"
  | .outputs => "outputs"
  | .stateMutability => "stateMutability"
  | .constant => "constant"
  | .payable => "payable"
  | .anonymous => "anonymous"

end Member.FieldName

namespace MemberKind

/-- The fields that a kind knows, in their order. -/
def fields : MemberKind → List Member.FieldName
  | .function => [.name, .inputs, .outputs, .stateMutability, .constant, .payable]
  | .event => [.name, .inputs, .anonymous]
  | .constructor => [.inputs, .stateMutability]
  | .error => [.name, .inputs]
  | .fallback => [.stateMutability]
  | .receive => [.stateMutability]

/-- The name of a kind's record. -/
def recordName : MemberKind → String
  | .function => "Function"
  | .event => "Event"
  | .constructor => "Constructor"
  | .error => "CustomError"
  | .fallback => "Fallback"
  | .receive => "Receive"

/-- The field of a key, among those that the kind knows. -/
def field? (kind : MemberKind) (key : String) : Option Member.FieldName :=
  kind.fields.find? (·.key == key)

/-- The kind that a tag names. -/
def ofJson : Json → Except ShapeFault MemberKind
  | .text s =>
    match MemberKind.ofTag? s with
    | some kind => .ok kind
    | none => .error (.unknownAlternative s (MemberKind.all.map MemberKind.tag))
  | v => Json.wrongKind v .alternative

end MemberKind

/-- A field of a member with its value. -/
inductive Member.Field where
  | name (value : String)
  | inputs (value : List Param)
  | outputs (value : List Param)
  | stateMutability (value : Option Mutability)
  | constant (value : Option Bool)
  | payable (value : Option Bool)
  | anonymous (value : Bool)

namespace Member.Field

/-- Reads one field. -/
def ofJson : Member.FieldName → Json → Except ShapeFault Member.Field
  | .name, v => v.toText.map .name
  | .inputs, v => (Param.listOfJson v).map .inputs
  | .outputs, v => (Param.listOfJson v).map .outputs
  | .stateMutability, v => (v.toOptional Mutability.ofJson).map .stateMutability
  | .constant, v => (v.toOptional Json.toBoolean).map .constant
  | .payable, v => (v.toOptional Json.toBoolean).map .payable
  | .anonymous, v => v.toBoolean.map .anonymous

/-- The value, if this is the name. -/
def name? : Member.Field → Option String
  | .name s => some s
  | _ => none

/-- The value, if these are the inputs. -/
def inputs? : Member.Field → Option (List Param)
  | .inputs ps => some ps
  | _ => none

/-- The value, if these are the outputs. -/
def outputs? : Member.Field → Option (List Param)
  | .outputs ps => some ps
  | _ => none

/-- The value, if this is the mutability. -/
def stateMutability? : Member.Field → Option (Option Mutability)
  | .stateMutability m => some m
  | _ => none

/-- The value, if this is the older flag for reading. -/
def constant? : Member.Field → Option (Option Bool)
  | .constant b => some b
  | _ => none

/-- The value, if this is the older flag for payment. -/
def payable? : Member.Field → Option (Option Bool)
  | .payable b => some b
  | _ => none

/-- The value, if this is the mark of an anonymous event. -/
def anonymous? : Member.Field → Option Bool
  | .anonymous b => some b
  | _ => none

end Member.Field

namespace Member

/-- Puts a member of a kind together. `none` if it needs a name and has none. -/
def ofFields? (kind : MemberKind) (fields : List Member.Field) : Option Member :=
  let name? := fields.findSome? (·.name?)
  let inputs := (fields.findSome? (·.inputs?)).getD []
  let outputs := (fields.findSome? (·.outputs?)).getD []
  let stateMutability := (fields.findSome? (·.stateMutability?)).getD none
  let constant := (fields.findSome? (·.constant?)).getD none
  let payable := (fields.findSome? (·.payable?)).getD none
  let anonymous := (fields.findSome? (·.anonymous?)).getD false
  match kind with
  | .function => name?.map fun name =>
      .function ⟨name, inputs, outputs, stateMutability, constant, payable⟩
  | .event => name?.map fun name => .event ⟨name, inputs, anonymous⟩
  | .constructor => some (.constructor ⟨inputs, stateMutability⟩)
  | .error => name?.map fun name => .error ⟨name, inputs⟩
  | .fallback => some (.fallback stateMutability)
  | .receive => some (.receive stateMutability)

/-- Reads the members of an object that a kind knows. -/
def fieldsOfMembers (kind : MemberKind) :
    List (String × Json) → Except ShapeFault (List Member.Field)
  | [] => .ok []
  | (key, v) :: rest =>
    match kind.field? key with
    | none => fieldsOfMembers kind rest
    | some slot =>
      match Member.Field.ofJson slot v with
      | .error e => .error e
      | .ok field => (fieldsOfMembers kind rest).map (field :: ·)

/-- Reads the elements of an array as the fields of these names. -/
def fieldsOfElements : List Member.FieldName → List Json → Except ShapeFault (List Member.Field)
  | slot :: slots, v :: rest =>
    match Member.Field.ofJson slot v with
    | .error e => .error e
    | .ok field => (fieldsOfElements slots rest).map (field :: ·)
  | _, _ => .ok []

/-- The key of the tag. -/
def tagKey : String := "type"

/-- Reads a member of a known kind from the members of an object. -/
def ofMembers (kind : MemberKind) (members : List (String × Json)) : Except ShapeFault Member :=
  match fieldsOfMembers kind members with
  | .error e => .error e
  | .ok fields =>
    match ofFields? kind fields with
    | some m => .ok m
    | none => .error (.missingField Member.FieldName.name.key)

/-- Reads a member of a known kind from an array of its fields. -/
def ofElements (kind : MemberKind) (elements : List Json) : Except ShapeFault Member :=
  match fieldsOfElements kind.fields elements with
  | .error e => .error e
  | .ok fields =>
    match ofFields? kind fields with
    | some m =>
      if elements.length ≤ kind.fields.length then .ok m
      else .error (.wrongLength elements.length (.elements kind.fields.length))
    | none => .error (.wrongLength 0 (.recordOf kind.recordName kind.fields.length))

/-- Reads a member: an object with a tag, or an array that starts with one. -/
def ofJson : Json → Except ShapeFault Member
  | .object members =>
    match members.lookup tagKey with
    | none => .error (.missingField tagKey)
    | some tag =>
      match MemberKind.ofJson tag with
      | .error e => .error e
      | .ok kind => ofMembers kind (members.filter (·.1 != tagKey))
  | .array [] => .error (.missingField tagKey)
  | .array (tag :: rest) =>
    match MemberKind.ofJson tag with
    | .error e => .error e
    | .ok kind => ofElements kind rest
  | v => Json.wrongKind v (.tagged "Member")

end Member

end ContractBindings.Abi
