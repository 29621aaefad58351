import ContractBindings.Abi.Member
import ContractBindings.Naming.Identifier

/-!
# Names of parameters

Generated code names every parameter. A parameter keeps its own name if that is an identifier and
no parameter before it has the same one; otherwise it is named for its position. Only the kept
names can stand in the way of a positional name, since two positional names differ in their
positions.
-/

namespace ContractBindings.Naming

/-- The first of `name`, `name_`, `name__`, … that is not in use. Looking at one name more than are
in use is enough, which is what the first argument counts down. -/
def firstFree (used : List String) : Nat → String → String
  | 0, name => name
  | tries + 1, name => if name ∈ used then firstFree used tries (name.push '_') else name

/-- The name of a parameter for its position, counting from zero. -/
def positional (used : List String) (index : Nat) : String :=
  firstFree used used.length ("arg" ++ toString index)

/-- The names that parameters keep. -/
def keptNames (params : List Abi.Param) : List String :=
  (params.map (·.name)).filter isIdentifier

/-- The names of the parameters from a position on, after parameters that keep the names `seen`. -/
def paramNamesFrom (used seen : List String) (index : Nat) : List Abi.Param → List String
  | [] => []
  | p :: rest =>
    if isIdentifier p.name ∧ p.name ∉ seen then
      p.name :: paramNamesFrom used (p.name :: seen) (index + 1) rest
    else
      positional used index :: paramNamesFrom used seen (index + 1) rest

/-- A name for each parameter. -/
def paramNames (params : List Abi.Param) : List String :=
  paramNamesFrom (keptNames params) [] 0 params

end ContractBindings.Naming
