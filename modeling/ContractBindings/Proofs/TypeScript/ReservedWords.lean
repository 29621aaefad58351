import ContractBindings.Proofs.TypeScript.Fields

/-!
# Reserved words

The words that the language keeps for itself cannot name a parameter. Names are not checked for
them: what may be the bare name of a property is kept as the name of a parameter too.

1. `reserved_mem_paramNames`: such a word is in a list of names just if a parameter is called so.
2. `reserved_declared`: the same of the signatures of functions and of the deploying function.
3. `reserved_written`: an ABI with which such words are declared.
-/

namespace ContractBindings.TypeScript

open Naming (isIdentifier paramNames)

/-- The words that cannot name a parameter. -/
def reservedWords : List String :=
  ["break", "case", "catch", "class", "const", "continue", "debugger", "default", "delete", "do",
    "else", "enum", "export", "extends", "false", "finally", "for", "function", "if", "import",
    "in", "instanceof", "new", "null", "return", "super", "switch", "this", "throw", "true", "try",
    "typeof", "var", "void", "while", "with"]

/-- A reserved word may be kept as a name, and is none for a position. -/
theorem reserved_shape {word : String} (h : word ∈ reservedWords) :
    isIdentifier word = true ∧ "arg".toList.isPrefixOf word.toList = false := by
  have hall : (reservedWords.all fun word =>
      isIdentifier word && !"arg".toList.isPrefixOf word.toList) = true := by decide
  simpa using List.all_eq_true.1 hall word h

theorem reserved_mem_paramNames {word : String} (h : word ∈ reservedWords)
    {params : List Abi.Param} : word ∈ paramNames params ↔ ∃ p ∈ params, p.name = word :=
  Naming.mem_paramNames_iff (reserved_shape h).1 (reserved_shape h).2

/-- A signature declares a reserved word as a parameter just if the function has a parameter called
so, and so does the type of the deploying function for the constructor. Names for positions, and the
name of the one who signs, are never reserved. -/
theorem reserved_declared (s : Subject) {word : String} (h : word ∈ reservedWords) :
    (∀ f ∈ s.interface.functions,
      word ∈ ((fields f.inputs).map Field.text).map declared ↔ ∃ p ∈ f.inputs, p.name = word) ∧
      (word ∈ s.deployParams.map declared ↔
        ∃ c ∈ s.interface.constructor, ∃ p ∈ c.inputs, p.name = word) := by
  have hsigner : word ≠ "signer" := by
    rintro rfl
    revert h
    decide
  refine ⟨fun f _ => ?_, ?_⟩
  · rw [declared_texts]
    exact reserved_mem_paramNames h
  · rw [declared_deployParams, List.mem_cons, or_iff_right hsigner]
    cases s.interface.constructor with
    | none => simp
    | some c => simp [reserved_mem_paramNames h]

/-- A function takes the word as a name twice, and its constructor one that only contains it. -/
theorem reserved_declared_twice :
    let twice : List Abi.Param := [.mk "with" "bool" none none [], .mk "with" "bool" none none []]
    let other : List Abi.Param := [.mk "_with" "bool" none none [], .mk "" "bool" none none []]
    let s : Subject :=
      { contract := "T"
        interface :=
          { functions := [{ name := "f", inputs := twice }]
            constructor := some { inputs := other } }
        abi := .array [] }
    "with" ∈ reservedWords ∧ "with" ∈ ((fields twice).map Field.text).map declared ∧
      "with" ∉ s.deployParams.map declared := by
  intro twice other s
  have hword : "with" ∈ reservedWords := by decide
  obtain ⟨hfunctions, hdeploy⟩ := reserved_declared s hword
  refine ⟨hword, (hfunctions _ List.mem_cons_self).2 ⟨_, List.mem_cons_self, rfl⟩, ?_⟩
  rw [hdeploy]
  rintro ⟨c, hc, hp⟩
  obtain rfl := Option.some.inj hc
  revert hp
  decide

/-- Parameters may be called by reserved words, in which case these are declared. -/
theorem reserved_written :
    let param (name : String) : Json := .object [("name", .text name), ("type", .text "bool")]
    let abi : Json := .array [
      .object [("type", .text "function"), ("name", .text "f"), ("inputs", .array [param "class"])],
      .object [("type", .text "constructor"), ("inputs", .array [param "with"])]]
    ∃ interface, Abi.Interface.ofJson abi = .ok interface ∧
      let s : Subject := { contract := "T", interface, abi }
      "class" ∈ reservedWords ∧ "with" ∈ reservedWords ∧
        s.contractInterface =
          "export interface TContract extends ethers.Contract \x7b\n" ++
            "  f(class: boolean): Promise<ethers.ContractTransactionResponse>;\n\x7d\n" ∧
        s.deployParams = ["signer: ethers.Signer", "with: boolean"] ∧
        "with" ∈ s.deployParams.map declared := by
  intro param abi
  refine ⟨{ functions := [{ name := "f", inputs := [.mk "class" "bool" none none []] }]
            constructor := some { inputs := [.mk "with" "bool" none none []] } }, by cbv, ?_⟩
  intro s
  have hfields (name : String) (h : paramNames [.mk name "bool" none none []] = [name]) :
      fields [.mk name "bool" none none []] = [⟨name, .boolean⟩] := by
    have htype : TsType.ofAbi "bool" = .boolean := (ofAbi_scalar (by decide)).trans (by decide)
    rw [fields, h, List.map_singleton, Abi.Param.type, htype]
    rfl
  have hdeploy : s.deployParams = ["signer: ethers.Signer", "with: boolean"] := by
    simp only [s, Subject.deployParams, hfields "with" (by decide)]
    rfl
  refine ⟨by decide, by decide, ?_, hdeploy, ?_⟩
  · simp only [s, Subject.contractInterface, signature, hfields "class" (by decide), List.map_cons]
    decide
  · rw [hdeploy]
    decide

end ContractBindings.TypeScript
