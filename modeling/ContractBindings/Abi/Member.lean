/-!
# Members of a contract's interface

The typed form of the entries of a JSON ABI. Optional fields are kept as given; what a function
does to the chain is worked out from them by `Function.mutability`.
-/

namespace ContractBindings.Abi

/-- What a call may do to the state of the chain. -/
inductive Mutability where
  | pure
  | view
  | nonpayable
  | payable
  deriving DecidableEq, Repr

namespace Mutability

/-- All of them, in the order in which faults list them. -/
def all : List Mutability := [.pure, .view, .nonpayable, .payable]

/-- The name in an ABI. -/
def name : Mutability → String
  | .pure => "pure"
  | .view => "view"
  | .nonpayable => "nonpayable"
  | .payable => "payable"

/-- The mutability of a name. -/
def ofName? (s : String) : Option Mutability := all.find? (·.name == s)

/-- Calls return a value and change nothing. -/
def isReadOnly : Mutability → Bool
  | .pure | .view => true
  | .nonpayable | .payable => false

end Mutability

/-- A parameter of a function, event, error or constructor, or a result of a function. -/
inductive Param where
  /-- A parameter with its name (empty if it has none), its type, the type's name in the source,
  whether an event indexes it, and the components of a tuple type. -/
  | mk (name : String) (type : String) (internalType : Option String) (indexed : Option Bool)
    (components : List Param)
  deriving Repr

namespace Param

/-- The name, empty for a parameter without one. -/
def name : Param → String
  | mk name _ _ _ _ => name

/-- The ABI type. -/
def type : Param → String
  | mk _ type _ _ _ => type

/-- The type's name in the source. -/
def internalType : Param → Option String
  | mk _ _ internalType _ _ => internalType

/-- Whether an event indexes it. -/
def indexed : Param → Option Bool
  | mk _ _ _ indexed _ => indexed

/-- The components of a tuple type. -/
def components : Param → List Param
  | mk _ _ _ _ components => components

end Param

/-- A function. -/
structure Function where
  name : String
  inputs : List Param := []
  outputs : List Param := []
  /-- The mutability as given. -/
  stateMutability : Option Mutability := none
  /-- An older way to say that the function only reads. -/
  constant : Option Bool := none
  /-- An older way to say that the function takes payment. -/
  payable : Option Bool := none
  deriving Repr

/-- The mutability as given, or else as the older flags say: reading goes before payment. -/
def Function.mutability (f : Function) : Mutability :=
  match f.stateMutability with
  | some m => m
  | none =>
    if f.constant = some true then .view
    else if f.payable = some true then .payable
    else .nonpayable

/-- Calls return a value and change nothing. -/
def Function.isReadOnly (f : Function) : Bool := f.mutability.isReadOnly

/-- An event. -/
structure Event where
  name : String
  inputs : List Param := []
  anonymous : Bool := false
  deriving Repr

/-- A constructor. -/
structure Constructor where
  inputs : List Param := []
  stateMutability : Option Mutability := none
  deriving Repr

/-- An error that a contract can raise. -/
structure CustomError where
  name : String
  inputs : List Param := []
  deriving Repr

/-- The kinds of members. -/
inductive MemberKind where
  | function
  | event
  | constructor
  | error
  | fallback
  | receive
  deriving DecidableEq, Repr

namespace MemberKind

/-- All of them, in the order in which faults list them. -/
def all : List MemberKind := [.function, .event, .constructor, .error, .fallback, .receive]

/-- The tag in an ABI. -/
def tag : MemberKind → String
  | .function => "function"
  | .event => "event"
  | .constructor => "constructor"
  | .error => "error"
  | .fallback => "fallback"
  | .receive => "receive"

/-- The kind of a tag. -/
def ofTag? (s : String) : Option MemberKind := all.find? (·.tag == s)

end MemberKind

/-- An entry of an ABI. The two entries without a name hold their mutability as given. -/
inductive Member where
  | function (f : Function)
  | event (e : Event)
  | constructor (c : Constructor)
  | error (e : CustomError)
  | fallback (stateMutability : Option Mutability)
  | receive (stateMutability : Option Mutability)
  deriving Repr

/-- The kind of a member. -/
def Member.kind : Member → MemberKind
  | .function _ => .function
  | .event _ => .event
  | .constructor _ => .constructor
  | .error _ => .error
  | .fallback _ => .fallback
  | .receive _ => .receive

end ContractBindings.Abi
