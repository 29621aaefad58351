import ContractBindings.Text.Uppercase

/-!
# Identifiers

The names that can stand in generated code without quotes, and the change that makes a contract's
name start a type's name. Only ASCII characters count as letters and digits here.
-/

namespace ContractBindings.Naming

/-- May start an identifier: a letter, an underscore or a dollar sign. -/
def startsIdentifier (c : Char) : Bool :=
  c.isAlpha || c == '_' || c == '$'

/-- May go on in an identifier: a letter, a digit, an underscore or a dollar sign. -/
def continuesIdentifier (c : Char) : Bool :=
  c.isAlphanum || c == '_' || c == '$'

/-- The characters form an identifier. -/
def formIdentifier : List Char → Bool
  | [] => false
  | first :: rest => startsIdentifier first && rest.all continuesIdentifier

/-- The text is an identifier. -/
def isIdentifier (s : String) : Bool :=
  formIdentifier s.toList

/-- The text with its first character in upper case and the rest as it was: a contract's name
may be an acronym in mixed case, which a full change of case would spoil. -/
def upperFirst (s : String) : String :=
  match s.toList with
  | [] => ""
  | first :: rest => String.ofList (Text.upper first ++ rest)

end ContractBindings.Naming
