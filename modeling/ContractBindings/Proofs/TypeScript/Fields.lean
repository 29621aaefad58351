import ContractBindings.TypeScript.Binding
import ContractBindings.Proofs.Naming.Parameters
import Mathlib

/-!
# Fields of declarations

Parameters are written as a name, a colon and a type, in the signatures of functions, the map of
events, the parameters of a constructor and those of the deploying function.

1. `isFieldChar_of_mem`: the characters of a field, none of which ends one.
2. `declared_texts`: the names that written parameters declare.
3. `names_declared_once`: no list declares a name twice, but for that of the deploying function,
   which does if the constructor has a parameter `signer` (`signer_declared_twice`).
-/

namespace ContractBindings.TypeScript

open Naming (isIdentifier continuesIdentifier continues_of_mem paramNames)

/-! ## Characters -/

/-- The characters of types: letters, and brackets for arrays. -/
theorem mem_typeText {t : TsType} {c : Char} (h : c ∈ t.text.toList) :
    c.isAlpha = true ∨ c = '[' ∨ c = ']' := by
  induction t with
  | array element ih =>
    rw [TsType.text, String.toList_append, List.mem_append] at h
    rcases h with h | h
    · exact ih h
    · exact .inr (by simpa using h)
  | _ => exact .inl (List.all_eq_true.1 (by decide) c h)

/-- A type without a dimension at its end is a scalar. -/
theorem ofAbi_scalar {abi : String}
    (h : TsType.withoutDimension? abi.toList.reverse = none) :
    TsType.ofAbi abi = TsType.ofScalar abi.toList := by
  rw [TsType.ofAbi, TsType.ofReversed]
  split
  · next element hfound => simp [h] at hfound
  · rw [List.reverse_reverse]

/-- Stands in a field: goes on in an identifier, or follows the name. -/
def isFieldChar (c : Char) : Bool :=
  continuesIdentifier c || [':', ' ', '[', ']'].contains c

theorem toList_text (f : Field) :
    f.text.toList = f.name.toList ++ ':' :: ' ' :: f.type.text.toList := by
  simp [Field.text]

theorem isFieldChar_of_mem {f : Field} (hname : isIdentifier f.name = true) {c : Char}
    (h : c ∈ f.text.toList) : isFieldChar c = true := by
  rw [toList_text, List.mem_append, List.mem_cons, List.mem_cons] at h
  rcases h with h | rfl | rfl | h
  · simp [isFieldChar, continues_of_mem hname h]
  · rfl
  · rfl
  · rcases mem_typeText h with hletter | rfl | rfl
    · simp [isFieldChar, continuesIdentifier, Char.isAlphanum, hletter]
    · rfl
    · rfl

/-! ## Names -/

/-- The name that a written parameter declares: what stands before the colon. -/
def declared (text : String) : String :=
  String.ofList (text.toList.takeWhile (· != ':'))

theorem declared_text {f : Field} (hname : isIdentifier f.name = true) :
    declared f.text = f.name := by
  have hcolon : ∀ c ∈ f.name.toList, (c != ':') = true := by
    intro c hc
    refine bne_iff_ne.2 ?_
    rintro rfl
    exact absurd (continues_of_mem hname hc) (by decide)
  rw [declared, toList_text, List.takeWhile_append_of_pos hcolon]
  simp

theorem names_zipWith {names : List String} {types : List TsType}
    (h : names.length = types.length) :
    (List.zipWith Field.mk names types).map Field.name = names := by
  induction names generalizing types with
  | nil => rfl
  | cons name names ih =>
    cases types with
    | nil => simp at h
    | cons type types =>
      rw [List.zipWith_cons_cons, List.map_cons, ih (by simpa using h)]

theorem names_fields (params : List Abi.Param) :
    (fields params).map Field.name = paramNames params := by
  rw [fields, names_zipWith]
  rw [Naming.length_paramNames, List.length_map]

theorem isIdentifier_of_mem_fields {params : List Abi.Param} {f : Field}
    (h : f ∈ fields params) : isIdentifier f.name = true := by
  have hmem := List.mem_map_of_mem (f := Field.name) h
  rw [names_fields] at hmem
  exact Naming.isIdentifier_of_mem_paramNames hmem

/-- Written parameters declare the names that they were given. -/
theorem declared_texts (params : List Abi.Param) :
    ((fields params).map Field.text).map declared = paramNames params := by
  rw [← names_fields, List.map_map]
  exact List.map_congr_left fun f hf => declared_text (isIdentifier_of_mem_fields hf)

/-! ## Lists of parameters -/

theorem nodup_declared (params : List Abi.Param) :
    (((fields params).map Field.text).map declared).Nodup := by
  rw [declared_texts]
  exact Naming.nodup_paramNames params

theorem signer_mem_paramNames {params : List Abi.Param} :
    "signer" ∈ paramNames params ↔ ∃ p ∈ params, p.name = "signer" :=
  Naming.mem_paramNames_iff (by decide) (by decide)

/-- The names that the parameters of the deploying function declare. -/
theorem declared_deployParams (s : Subject) :
    s.deployParams.map declared =
      "signer" :: match s.interface.constructor with
        | some c => paramNames c.inputs
        | none => [] := by
  have hsigner : declared "signer: ethers.Signer" = "signer" := by decide
  rw [Subject.deployParams, List.map_cons, hsigner]
  cases s.interface.constructor with
  | none => rfl
  | some c => simp only [declared_texts]

/-- Each function, each event and the constructor declare their parameters under different names.
The deploying function does so if the constructor has no parameter `signer`, and only then: its own
first parameter has that name, which the names of the others do not look out for. -/
theorem names_declared_once (s : Subject) :
    (∀ f ∈ s.interface.functions, (((fields f.inputs).map Field.text).map declared).Nodup) ∧
      (∀ e ∈ s.interface.events, (((fields e.inputs).map Field.text).map declared).Nodup) ∧
      (∀ c ∈ s.interface.constructor, (((fields c.inputs).map Field.text).map declared).Nodup) ∧
      ((s.deployParams.map declared).Nodup ↔
        ∀ c ∈ s.interface.constructor, ∀ p ∈ c.inputs, p.name ≠ "signer") := by
  refine ⟨fun f _ => nodup_declared f.inputs, fun e _ => nodup_declared e.inputs,
    fun c _ => nodup_declared c.inputs, ?_⟩
  rw [declared_deployParams]
  cases s.interface.constructor with
  | none => simp
  | some c =>
    simp only [List.nodup_cons, Naming.nodup_paramNames, and_true, signer_mem_paramNames,
      Option.mem_def, Option.some.injEq, forall_eq', not_exists, not_and, ne_eq]

/-- A contract of each kind of list, with names that are missing, repeated and taken. -/
theorem names_declared_once_taken :
    let inputs : List Abi.Param :=
      [.mk "" "bool" none none [], .mk "arg0" "bool" none none [], .mk "arg0" "bool" none none []]
    let s : Subject :=
      { contract := "T"
        interface :=
          { functions := [{ name := "f", inputs }]
            events := [{ name := "E", inputs }]
            constructor := some { inputs } }
        abi := .array [] }
    (fields inputs).map Field.text = ["arg0_: boolean", "arg0: boolean", "arg2: boolean"] ∧
      (((fields inputs).map Field.text).map declared).Nodup ∧
      (s.deployParams.map declared).Nodup := by
  intro inputs s
  obtain ⟨hfunctions, -, -, hdeploy⟩ := names_declared_once s
  have htype : TsType.ofAbi "bool" = .boolean := (ofAbi_scalar (by decide)).trans (by decide)
  refine ⟨?_, hfunctions _ List.mem_cons_self, hdeploy.2 ?_⟩
  · simp only [inputs, fields, List.map_cons, Abi.Param.type, htype]
    decide
  rintro c hc
  obtain rfl := Option.some.inj hc
  decide

/-- A constructor may have a parameter that is named like the one who signs. -/
theorem signer_declared_twice :
    let signer : Json := .object [("name", .text "signer"), ("type", .text "address")]
    let abi : Json := .array [.object [("type", .text "constructor"), ("inputs", .array [signer])]]
    ∃ interface, Abi.Interface.ofJson abi = .ok interface ∧
      let s : Subject := { contract := "T", interface, abi }
      s.deployParams = ["signer: ethers.Signer", "signer: string"] ∧
        ¬(s.deployParams.map declared).Nodup := by
  intro signer abi
  refine ⟨{ constructor := some { inputs := [.mk "signer" "address" none none []] } }, by cbv, ?_⟩
  intro s
  have htype : TsType.ofAbi "address" = .string := (ofAbi_scalar (by decide)).trans (by decide)
  have hfields : fields [.mk "signer" "address" none none []] = [⟨"signer", .string⟩] := by
    rw [fields, List.map_cons, Abi.Param.type, htype]
    decide
  refine ⟨?_, ?_⟩
  · simp only [s, Subject.deployParams, hfields]
    rfl
  · rw [declared_deployParams]
    decide

end ContractBindings.TypeScript
