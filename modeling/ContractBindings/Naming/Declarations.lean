import ContractBindings.Naming.Identifier
import ContractBindings.Naming.ScreamingSnake

/-!
# Names of declarations

What the generated declarations of a contract are called. Types and the deploying function take the
contract's name with its first character in upper case, constants take that name in screaming snake
case.
-/

namespace ContractBindings.Naming

/-- The names of a contract's declarations. -/
structure Declarations where
  /-- The interface of the contract. -/
  contract : String
  /-- The map of events. -/
  events : String
  /-- The parameters of the constructor. -/
  constructorParams : String
  /-- The interface as a constant. -/
  abiConstant : String
  /-- The creation code as a constant. -/
  bytecodeConstant : String
  /-- The type of the deploying function. -/
  deploy : String
  deriving DecidableEq, Repr

/-- The names for a contract. -/
def Declarations.ofContract (contract : String) : Declarations :=
  let type := upperFirst contract
  let constant := screamingSnake type
  { contract := type ++ "Contract"
    events := type ++ "Events"
    constructorParams := type ++ "ConstructorParams"
    abiConstant := constant ++ "_ABI"
    bytecodeConstant := constant ++ "_BYTECODE"
    deploy := "Deploy" ++ type }

/-- All names, in the order of the fields. -/
def Declarations.toList (d : Declarations) : List String :=
  [d.contract, d.events, d.constructorParams, d.abiConstant, d.bytecodeConstant, d.deploy]

end ContractBindings.Naming
