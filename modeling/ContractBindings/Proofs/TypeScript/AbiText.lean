import ContractBindings.Extraction.Run
import ContractBindings.Proofs.Json.RoundTrip
import ContractBindings.Proofs.Naming.ScreamingSnake
import Mathlib

/-!
# The interface in the outputs

The interface of a contract goes out three times: as a constant of the binding, in the module, and
as a file of its own. It can be cut out of the first two by the marks around it, whatever the
contract is called and whatever stands in the interface itself, which may hold those marks too.

1. `between`, `within`: how it is cut out.
2. `screamingSnake_no_space`: the name of a constant has no space, and so hides no mark.
3. `abi_lossless`: the three texts are one, and reading it gives the interface back.
-/

namespace ContractBindings.TypeScript

/-! ## Cutting -/

/-- What follows the first occurrence of a mark. -/
def afterFirst? (mark : List Char) : List Char → Option (List Char)
  | [] => mark.isPrefixOf? []
  | c :: rest =>
    match mark.isPrefixOf? (c :: rest) with
    | some after => some after
    | none => afterFirst? mark rest

/-- What stands before the last occurrence of a mark: read backwards, it is the first one. -/
def beforeLast? (mark s : List Char) : Option (List Char) :=
  (afterFirst? mark.reverse s.reverse).map List.reverse

/-- The text between the first occurrence of `opening` and the last one of `closing` after it. -/
def between (opening closing text : String) : Option String :=
  ((afterFirst? opening.toList text.toList).bind (beforeLast? closing.toList)).map String.ofList

/-- The text that begins with `opening` and ends with `closing`, without the two. -/
def within (opening closing text : String) : Option String :=
  ((opening.toList.isPrefixOf? text.toList).bind (closing.toList.isSuffixOf? ·)).map String.ofList

theorem isPrefixOf?_append (mark s : List Char) : mark.isPrefixOf? (mark ++ s) = some s := by
  induction mark with
  | nil => rfl
  | cons c mark ih => simp [List.isPrefixOf?, ih]

theorem isSuffixOf?_append (s mark : List Char) : mark.isSuffixOf? (s ++ mark) = some s := by
  rw [List.isSuffixOf?, List.reverse_append, isPrefixOf?_append]
  simp

theorem within_append (opening text closing : String) :
    within opening closing (opening ++ text ++ closing) = some text := by
  simp only [within, String.toList_append, List.append_assoc, isPrefixOf?_append,
    Option.bind_some, isSuffixOf?_append, Option.map_some, String.ofList_toList]

theorem afterFirst?_mark (mark s : List Char) : afterFirst? mark (mark ++ s) = some s := by
  cases h : mark ++ s with
  | nil =>
    rw [List.append_eq_nil_iff] at h
    rw [h.1, h.2]
    rfl
  | cons c rest => rw [afterFirst?, ← h, isPrefixOf?_append]

/-- A mark does not start at a character that is not its first one. -/
theorem afterFirst?_skip {m c : Char} (mark s : List Char) (h : m ≠ c) :
    afterFirst? (m :: mark) (c :: s) = afterFirst? (m :: mark) s := by
  rw [afterFirst?]
  simp [List.isPrefixOf?, h]

theorem afterFirst?_skip_all {m : Char} (mark : List Char) {s : List Char} (rest : List Char)
    (h : m ∉ s) : afterFirst? (m :: mark) (s ++ rest) = afterFirst? (m :: mark) rest := by
  induction s with
  | nil => rfl
  | cons c s ih =>
    rw [List.mem_cons, not_or] at h
    rw [List.cons_append, afterFirst?_skip mark _ h.1, ih h.2]

theorem beforeLast?_mark (mark s rest : List Char) {m : Char} (h : m ∉ rest) :
    beforeLast? (mark ++ [m]) (s ++ (mark ++ [m]) ++ rest) = some s := by
  have hrest : m ∉ rest.reverse := by simpa using h
  have last : afterFirst? (mark ++ [m]).reverse
      (rest.reverse ++ ((mark ++ [m]).reverse ++ s.reverse)) = some s.reverse := by
    rw [← afterFirst?_mark (mark ++ [m]).reverse s.reverse, List.reverse_append]
    exact afterFirst?_skip_all _ _ hrest
  rw [beforeLast?, @List.reverse_append _ (s ++ _), @List.reverse_append _ s, last]
  simp

/-! ## Names of constants -/

theorem screamingSnake_no_space (s : String) : ' ' ∉ (Naming.screamingSnake s).toList := by
  rw [Naming.screamingSnake, String.toList_ofList]
  intro hmem
  rcases Naming.mem_snake hmem with hscore | ⟨c, -, hc, hupper⟩
  · exact absurd hscore (by decide)
  · rw [← Naming.isSeparator_toUpper, ← hupper] at hc
    exact absurd hc (by decide)

/-! ## The interface -/

/-- The first ` = ` of a declaration stands right after the declared name, if that has at least two
characters and no space: it cannot start earlier, since `const` has a space after it only. -/
theorem afterFirst?_declaration {name : List Char} (before rest : List Char) (hname : ' ' ∉ name)
    (hlength : 2 ≤ name.length) (hbefore : before = [] ∨ before = "export ".toList) :
    afterFirst? " = ".toList (before ++ "const ".toList ++ name ++ " = ".toList ++ rest) =
      some rest := by
  obtain ⟨a, b, name', rfl⟩ : ∃ a b name', name = a :: b :: name' := by
    match name, hlength with
    | a :: b :: name', _ => exact ⟨a, b, name', rfl⟩
  simp only [List.mem_cons, not_or] at hname
  have named : afterFirst? [' ', '=', ' '] (' ' :: (a :: b :: name' ++ " = ".toList ++ rest)) =
      some rest := by
    have second : ([' ', '=', ' '] : List Char).isPrefixOf?
        (' ' :: (a :: b :: name' ++ " = ".toList ++ rest)) = none := by
      simp [List.isPrefixOf?, hname.2.1]
    rw [afterFirst?, second, List.append_assoc, afterFirst?_skip_all _ _ (by simp [hname])]
    exact afterFirst?_mark _ _
  have declared : afterFirst? [' ', '=', ' ']
      ("const ".toList ++ (a :: b :: name' ++ " = ".toList ++ rest)) = some rest := by
    rw [← named]
    exact afterFirst?_skip_all _ (s := "const".toList) _ (by decide)
  rcases hbefore with rfl | rfl
  · simpa using declared
  · rw [← declared]
    simp [afterFirst?, List.isPrefixOf?]

theorem between_abiConstant (s : Subject) :
    between " = " " as const;" s.abiConstant = some s.abi.pretty := by
  have hexport : s.exporting.toList = [] ∨ s.exporting.toList = "export ".toList := by
    unfold Subject.exporting
    split
    · exact .inr rfl
    · exact .inl rfl
  have hname : ' ' ∉ s.names.abiConstant.toList := by
    simp [Subject.names, Naming.Declarations.ofContract, screamingSnake_no_space]
  have hlength : 2 ≤ s.names.abiConstant.toList.length := by
    simp [Subject.names, Naming.Declarations.ofContract]
  have opened : afterFirst? " = ".toList s.abiConstant.toList =
      some (s.abi.pretty.toList ++ " as const;".toList ++ "\n".toList) := by
    rw [← afterFirst?_declaration _ _ hname hlength hexport]
    simp [Subject.abiConstant]
  have closed : beforeLast? " as const;".toList
      (s.abi.pretty.toList ++ " as const;".toList ++ "\n".toList) = some s.abi.pretty.toList :=
    beforeLast?_mark " as const".toList _ _ (m := ';') (by decide)
  rw [between, opened, Option.bind_some, closed]
  simp

theorem within_module (s : Subject) :
    within ("// " ++ s.contract ++ " Contract ABI\nmodule.exports = ") ";\n" s.module =
      some s.abi.pretty :=
  within_append _ _ _

/-- The interface comes out of a run as it went in. Let it be read from a text, with no number but
integers. Then the constant between its marks, the module between its own, and the file are the same
text, for any name of the contract and any options, and reading that text gives the interface with
its members in the same order at every depth. -/
theorem abi_lossless {text : String} {artifact : Artifact}
    (hread : Json.read text = .ok artifact.abi) (hint : artifact.abi.Integral) (contract : String)
    (interface : Abi.Interface) (options : Options) :
    let s : Subject := ⟨contract, interface, artifact.abi, options⟩
    let file := Extraction.Output.abiJson.text artifact s.binding
    between " = " " as const;" s.binding.abiConstant = some file ∧
      within ("// " ++ contract ++ " Contract ABI\nmodule.exports = ") ";\n" s.binding.module =
        some file ∧
      Json.read file = .ok artifact.abi := by
  intro s file
  refine ⟨between_abiConstant s, within_module s, ?_⟩
  exact Json.read_pretty (Json.read_fits hread) hint

/-- An event whose name holds both marks, in a contract that is called like the first one. -/
theorem abi_lossless_marks :
    let abi : Json := .array [.object [("name", .text " = as const; = "), ("type", .text "event"),
      ("inputs", .array []), ("size", .array [.number (.integer (-1)), .object []])]]
    let s : Subject := ⟨" = ", { events := [{ name := " = as const; = " }] }, abi, {}⟩
    Abi.Interface.ofJson abi = .ok s.interface ∧
      between " = " " as const;" s.binding.abiConstant = some abi.pretty ∧
      within "//  =  Contract ABI\nmodule.exports = " ";\n" s.binding.module = some abi.pretty ∧
      Json.read abi.pretty = .ok abi := by
  intro abi s
  have hread : Json.read ("[\x7b\"name\":\" = as const; = \",\"type\":\"event\",\"inputs\":[]," ++
      "\"size\":[-1,\x7b\x7d]\x7d]") = .ok abi := by cbv
  have hint : abi.Integral := by
    refine .array fun v hv => ?_
    rw [List.mem_singleton.1 hv]
    refine .object fun m hm => ?_
    simp only [List.mem_cons, List.not_mem_nil, or_false] at hm
    rcases hm with rfl | rfl | rfl | rfl
    · exact .text
    · exact .text
    · exact .array (by simp)
    · refine .array fun v hv => ?_
      simp only [List.mem_cons, List.not_mem_nil, or_false] at hv
      rcases hv with rfl | rfl
      · exact .integer
      · exact .object (by simp)
  refine ⟨by cbv, ?_⟩
  exact @abi_lossless _ { contractName := "Token", abi } hread hint " = " s.interface {}

end ContractBindings.TypeScript
