import ContractBindings.Number.Binary64

/-!
# JSON values

A value keeps what its text says that a consumer can see: the order of the members of an object,
and whether a number was an integer of 64 bits or a binary64 number.
-/

namespace ContractBindings

/-- A JSON number. -/
inductive Json.Number where
  /-- An integer between `-2 ^ 63` and `2 ^ 64 - 1`. -/
  | integer (value : Int)
  /-- Any other number. -/
  | binary64 (value : Binary64)
  deriving DecidableEq, Repr

/-- A JSON value. -/
inductive Json where
  /-- `null` -/
  | null
  /-- `true` or `false` -/
  | bool (value : Bool)
  /-- A number. -/
  | number (value : Json.Number)
  /-- A text. -/
  | text (value : String)
  /-- A list of values. -/
  | array (elements : List Json)
  /-- Named values in order. -/
  | object (members : List (String × Json))
  deriving Repr

namespace Json

/-- A member takes the place of an earlier one of its name, or else comes last. -/
def setMember (key : String) (value : Json) : List (String × Json) → List (String × Json)
  | [] => [(key, value)]
  | (k, v) :: rest => if k = key then (k, value) :: rest else (k, v) :: setMember key value rest

/-- The members of an object whose text lists `pairs`: of several with one name, the last value
stands at the place of the first. -/
def members (pairs : List (String × Json)) : List (String × Json) :=
  pairs.foldl (fun known pair => setMember pair.1 pair.2 known) []

/-- The value of a member of an object. -/
def member? (key : String) : Json → Option Json
  | .object members => members.lookup key
  | _ => none

/-- The kinds of values. -/
inductive Kind where
  | null
  | boolean
  | number
  | text
  | array
  | object
  deriving DecidableEq, Repr

/-- The kind of a value. -/
def kind : Json → Kind
  | .null => .null
  | .bool _ => .boolean
  | .number _ => .number
  | .text _ => .text
  | .array _ => .array
  | .object _ => .object

/-- A kind with its article. -/
def Kind.described : Kind → String
  | .null => "null"
  | .boolean => "a boolean"
  | .number => "a number"
  | .text => "a string"
  | .array => "an array"
  | .object => "an object"

end Json

end ContractBindings
