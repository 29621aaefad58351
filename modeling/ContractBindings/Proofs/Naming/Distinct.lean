import ContractBindings.Naming.Declarations
import ContractBindings.Proofs.Naming.Words

/-!
# Declarations by different names

The declarations of a contract stand in one file, together with the name that is imported there.
Whatever the contract is called, no two of these names are equal.

1. `toList_ofContract`: the names by what they have in common.
2. `not_mem_constants`: no constant is called like anything with a lower-case letter.
3. `deploy_not_mem_types`: no type is called like the deploying function.
4. `declarations_distinct`: all names of a file are different.
-/

namespace ContractBindings.Naming

/-! ## Names by their kind -/

/-- What follows a contract's name in the names of its types. -/
def typeSuffixes : List String := ["Contract", "Events", "ConstructorParams"]

/-- What follows a contract's name in the names of its constants. -/
def constantSuffixes : List String := ["_ABI", "_BYTECODE"]

/-- The names of types. -/
def typeNames (type : String) : List String := typeSuffixes.map (type ++ ·)

/-- The names of constants. -/
def constantNames (type : String) : List String :=
  constantSuffixes.map (screamingSnake type ++ ·)

variable {type name : String} {c : Char}

theorem toList_ofContract (contract : String) :
    (Declarations.ofContract contract).toList =
      typeNames (upperFirst contract) ++
        (constantNames (upperFirst contract) ++ ["Deploy" ++ upperFirst contract]) :=
  rfl

theorem nodup_append_left (stem : String) {suffixes : List String} (h : suffixes.Nodup) :
    (suffixes.map (stem ++ ·)).Nodup :=
  h.map fun _ _ heq => (String.append_right_inj stem).1 heq

/-! ## Constants -/

theorem not_isLower_of_mem_constant (hname : name ∈ constantNames type) (hc : c ∈ name.toList) :
    c.isLower = false := by
  obtain ⟨suffix, hsuffix, rfl⟩ := List.mem_map.1 hname
  rw [String.toList_append, List.mem_append] at hc
  rcases hc with hsnake | hmem
  · rw [screamingSnake, String.toList_ofList] at hsnake
    exact not_isLower_of_mem_snake hsnake
  · have hupper : ∀ suffix ∈ constantSuffixes, ∀ d ∈ suffix.toList, d.isLower = false := by
      simp [constantSuffixes]
    exact hupper suffix hsuffix c hmem

/-- A constant has no lower-case letter. -/
theorem not_mem_constants (hc : c ∈ name.toList) (hlower : c.isLower = true) :
    name ∉ constantNames type := by
  intro hname
  rw [not_isLower_of_mem_constant hname hc] at hlower
  exact Bool.noConfusion hlower

theorem types_disjoint_constants : List.Disjoint (typeNames type) (constantNames type) := by
  intro name htype hconstant
  obtain ⟨suffix, hsuffix, rfl⟩ := List.mem_map.1 htype
  have hlower : ∀ suffix ∈ typeSuffixes, 's' ∈ suffix.toList ∨ 't' ∈ suffix.toList := by decide
  have hmem (d : Char) (hd : d ∈ suffix.toList) : d ∈ (type ++ suffix).toList := by
    rw [String.toList_append]
    exact List.mem_append_right _ hd
  rcases hlower suffix hsuffix with hs | ht
  · exact not_mem_constants (hmem _ hs) rfl hconstant
  · exact not_mem_constants (hmem _ ht) rfl hconstant

theorem deploy_not_mem_constants : "Deploy" ++ type ∉ constantNames type := by
  have hp : 'p' ∈ ("Deploy" ++ type).toList := by
    rw [String.toList_append]
    exact List.mem_append_left _ (by decide)
  exact not_mem_constants hp rfl

/-! ## The deploying function -/

/-- The name of the deploying function has one `D` more than the contract's name, those of types
have as many. The lengths would not tell it from the name of the events. -/
theorem deploy_not_mem_types : "Deploy" ++ type ∉ typeNames type := by
  intro hmem
  obtain ⟨suffix, hsuffix, heq⟩ := List.mem_map.1 hmem
  have hcount : (type ++ suffix).toList.count 'D' = ("Deploy" ++ type).toList.count 'D' := by
    rw [heq]
  have hnone : ∀ suffix ∈ typeSuffixes, suffix.toList.count 'D' = 0 := by decide
  have hone : "Deploy".toList.count 'D' = 1 := by decide
  rw [String.toList_append, String.toList_append, List.count_append, List.count_append,
    hnone suffix hsuffix, hone] at hcount
  omega

/-! ## The imported name -/

theorem imported_not_mem_types : "ethers" ∉ typeNames type := by
  intro hmem
  obtain ⟨suffix, hsuffix, heq⟩ := List.mem_map.1 hmem
  have hend : suffix.toList <:+ "ethers".toList := by
    rw [← heq, String.toList_append]
    exact List.suffix_append type.toList suffix.toList
  have hnone : ∀ suffix ∈ typeSuffixes, ¬suffix.toList <:+ "ethers".toList := by decide
  exact hnone suffix hsuffix hend

theorem imported_ne_deploy : "ethers" ≠ "Deploy" ++ type := by
  intro heq
  have hstart : "Deploy".toList <+: "ethers".toList := by
    rw [heq, String.toList_append]
    exact List.prefix_append "Deploy".toList type.toList
  exact absurd hstart (by decide)

/-! ## All names of a file -/

/-- The six declarations of any contract have six names, and none of them is the name that the file
imports. -/
theorem declarations_distinct (contract : String) :
    (Declarations.ofContract contract).toList.Nodup ∧
      "ethers" ∉ (Declarations.ofContract contract).toList := by
  have htypes : (typeNames (upperFirst contract)).Nodup := nodup_append_left _ (by decide)
  have hconstants : (constantNames (upperFirst contract)).Nodup := nodup_append_left _ (by decide)
  rw [toList_ofContract contract]
  constructor
  · refine htypes.append (hconstants.append (List.nodup_singleton _) ?_) ?_
    · rw [List.disjoint_singleton]
      exact deploy_not_mem_constants
    · rw [List.disjoint_append_right, List.disjoint_singleton]
      exact ⟨types_disjoint_constants, deploy_not_mem_types⟩
  · rw [List.mem_append, List.mem_append, List.mem_singleton]
    rintro (htype | hconstant | hdeploy)
    · exact imported_not_mem_types htype
    · exact not_mem_constants (c := 'e') (by decide) rfl hconstant
    · exact imported_ne_deploy hdeploy

end ContractBindings.Naming
