/-!
# TypeScript types

`TsType.ofAbi` maps an ABI type to the TypeScript type of its values: the dimensions at the end of
the text are taken off first, from the right, and what is left is a scalar type. Every text has a
type.
-/

namespace ContractBindings.TypeScript

/-- The types that generated signatures use. -/
inductive TsType where
  /-- Integers of any width: those of 256 bits do not fit into `number`. -/
  | bigInt
  | boolean
  /-- Addresses, strings, and bytes in hexadecimal. -/
  | string
  | array (element : TsType)
  /-- Tuples, functions, and whatever has no name here. -/
  | any
  deriving DecidableEq, Repr

namespace TsType

/-- The type as generated code writes it. -/
def text : TsType → String
  | bigInt => "bigint"
  | boolean => "boolean"
  | string => "string"
  | array element => element.text ++ "[]"
  | any => "any"

/-- How many arrays stand around the innermost type. -/
def levels : TsType → Nat
  | array element => element.levels + 1
  | _ => 0

/-- The innermost type. -/
def innermost : TsType → TsType
  | array element => element.innermost
  | t => t

/-- The type with arrays around it. -/
def nested (scalar : TsType) : Nat → TsType
  | 0 => scalar
  | levels + 1 => array (scalar.nested levels)

/-- The characters contain `int`. -/
def containsInt : List Char → Bool
  | 'i' :: 'n' :: 't' :: _ => true
  | _ :: rest => containsInt rest
  | [] => false

/-- The type of an ABI type without dimensions. -/
def ofScalar (abi : List Char) : TsType :=
  if containsInt abi then bigInt
  else if abi = "bool".toList then boolean
  else if abi = "address".toList ∨ abi = "string".toList then string
  else
    match abi with
    | 'b' :: 'y' :: 't' :: 'e' :: 's' :: width => if width.all Char.isDigit then string else any
    | _ => any

/-- Takes one dimension, `[` digits `]`, off the end of an ABI type. Both the type and the result
are written backwards. -/
def withoutDimension? : List Char → Option (List Char)
  | ']' :: rest =>
    match rest.dropWhile Char.isDigit with
    | '[' :: element => some element
    | _ => none
  | _ => none

theorem length_withoutDimension? {abi element : List Char}
    (h : withoutDimension? abi = some element) : element.length < abi.length := by
  unfold withoutDimension? at h
  split at h
  next rest =>
    split at h
    next shorter =>
      have := (List.dropWhile_sublist Char.isDigit (l := rest)).length_le
      simp_all
      omega
    next => simp at h
  next => simp at h

/-- The type of an ABI type that is written backwards. -/
def ofReversed (abi : List Char) : TsType :=
  match _found : withoutDimension? abi with
  | some element => array (ofReversed element)
  | none => ofScalar abi.reverse
termination_by abi.length
decreasing_by exact length_withoutDimension? _found

/-- The TypeScript type of an ABI type. -/
def ofAbi (abi : String) : TsType :=
  ofReversed abi.toList.reverse

end TsType

end ContractBindings.TypeScript
