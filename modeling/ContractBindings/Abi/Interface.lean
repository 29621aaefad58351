import ContractBindings.Abi.Decode

/-!
# The interface of a contract

`Interface.ofJson` sorts the members of an ABI by kind, each group in the order of the ABI. It
either sorts all of them or names the first member that is not as it should be: no object, no
member, or a second constructor.
-/

namespace ContractBindings.Abi

/-- The members of an ABI, by kind. -/
structure Interface where
  functions : List Function := []
  events : List Event := []
  constructor : Option Constructor := none
  /-- Errors and the entries without a name, which no binding mentions. -/
  others : List Member := []
  deriving Repr

namespace Interface

/-- The interface has no member. -/
def isEmpty (i : Interface) : Bool :=
  i.functions.isEmpty && i.events.isEmpty && i.constructor.isNone && i.others.isEmpty

/-- The ways in which an ABI is not an interface. -/
inductive Malformed where
  /-- The ABI is no array. -/
  | notArray (found : Json.Kind)
  /-- A member is no object. -/
  | notObject (index : Nat) (found : Json.Kind)
  /-- A member is not of its shape. -/
  | badMember (index : Nat) (fault : Json.ShapeFault)
  /-- A constructor follows another one. -/
  | secondConstructor (index : Nat)
  deriving DecidableEq, Repr

/-- The index of the member at fault. -/
def Malformed.index? : Malformed → Option Nat
  | .notArray _ => none
  | .notObject index _ => some index
  | .badMember index _ => some index
  | .secondConstructor index => some index

/-- The wording of a malformed interface. -/
def Malformed.message : Malformed → String
  | .notArray found => "expected an array of members, found " ++ found.described
  | .notObject index found =>
    "member #" ++ toString index ++ " is " ++ found.described ++ ", expected an object"
  | .badMember index fault => "member #" ++ toString index ++ ": " ++ fault.message
  | .secondConstructor index => "member #" ++ toString index ++ ": more than one constructor"

/-- The interface with one more member before the others of its kind. -/
def withMember (m : Member) (i : Interface) : Interface :=
  match m with
  | .function f => { i with functions := f :: i.functions }
  | .event e => { i with events := e :: i.events }
  | .constructor c => { i with constructor := some c }
  | m => { i with others := m :: i.others }

/-- Reads the member at an index, when a constructor may have come before it. -/
def readMember (index : Nat) (constructed : Bool) (v : Json) : Except Malformed Member :=
  match v with
  | .object _ =>
    match Member.ofJson v with
    | .error fault => .error (.badMember index fault)
    | .ok m =>
      if constructed && m.kind == .constructor then .error (.secondConstructor index) else .ok m
  | v => .error (.notObject index v.kind)

/-- Sorts the members from an index on. -/
def ofMembers (index : Nat) (constructed : Bool) : List Json → Except Malformed Interface
  | [] => .ok {}
  | v :: rest =>
    match readMember index constructed v with
    | .error e => .error e
    | .ok m =>
      (ofMembers (index + 1) (constructed || m.kind == .constructor) rest).map (withMember m)

/-- Sorts the members of an ABI. -/
def ofJson : Json → Except Malformed Interface
  | .array members => ofMembers 0 false members
  | v => .error (.notArray v.kind)

end Interface

end ContractBindings.Abi
