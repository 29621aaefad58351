import ContractBindings.Proofs.Naming.Parameters

/-!
# The name at each position

What name each parameter of a list gets, told from the list alone.

1. `positional_congr`: a positional name depends on those names in use that could stand in its way.
2. `getElem?_paramNames`: the name at a position is the parameter's own, or a positional one.
3. `paramNamesCounting_eq`: positional names are never in the way of each other.
4. `paramNames_positions`: what the names of a list are, position by position.
-/

namespace ContractBindings.Naming

/-! ## Positional names -/

variable {used used' seen : List String} {params : List Abi.Param}

/-- What is in use matters only as far as it looks like a name for the position. -/
theorem positional_congr {index : Nat}
    (h : ∀ count, padded ("arg" ++ toString index) count ∈ used ↔
      padded ("arg" ++ toString index) count ∈ used') :
    positional used index = positional used' index := by
  obtain ⟨count, heq, hfewer⟩ := positional_eq used index
  obtain ⟨count', heq', hfewer'⟩ := positional_eq used' index
  have hfree := heq ▸ positional_not_mem used index
  have hfree' := heq' ▸ positional_not_mem used' index
  have hle : ¬count < count' := fun hlt => hfree ((h count).2 (hfewer' count hlt))
  have hge : ¬count' < count := fun hlt => hfree' ((h count').1 (hfewer count' hlt))
  rw [heq, heq', show count = count' by omega]

/-! ## The name at a position -/

/-- The parameter at a position is the first with its name, which is an identifier. -/
def KeepsName (params : List Abi.Param) (i : Nat) (p : Abi.Param) : Prop :=
  isIdentifier p.name = true ∧ p.name ∉ (params.take i).map (·.name)

theorem keepsName_zero {p : Abi.Param} :
    KeepsName params 0 p ↔ isIdentifier p.name = true := by
  simp [KeepsName]

theorem keepsName_succ {p q : Abi.Param} {i : Nat} :
    KeepsName (q :: params) (i + 1) p ↔ KeepsName params i p ∧ p.name ≠ q.name := by
  rw [KeepsName, KeepsName, List.take_succ_cons, List.map_cons, List.mem_cons, not_or, and_assoc,
    and_comm (a := p.name ≠ q.name)]

open Classical in
/-- The name at a position is the parameter's own, or the one for the position. -/
theorem getElem?_paramNamesFrom {index i : Nat} {p : Abi.Param} (h : params[i]? = some p) :
    (paramNamesFrom used seen index params)[i]? =
      some (if KeepsName params i p ∧ p.name ∉ seen then p.name
        else positional used (index + i)) := by
  induction params generalizing seen index i with
  | nil => simp at h
  | cons q rest ih =>
    rw [paramNamesFrom]
    cases i with
    | zero =>
      obtain rfl : q = p := by simpa using h
      rw [keepsName_zero]
      split <;> rfl
    | succ i =>
      rw [List.getElem?_cons_succ] at h
      have hindex : index + 1 + i = index + (i + 1) := by omega
      split
      · rw [List.getElem?_cons_succ, ih h, hindex]
        simp only [keepsName_succ, List.mem_cons, not_or, and_assoc]
      · next hnot =>
        rw [List.getElem?_cons_succ, ih h, hindex, keepsName_succ]
        -- the parameter before does not keep its name, so that only `seen` can have it
        have hother (hkeeps : KeepsName rest i p) (hseen : p.name ∉ seen) : p.name ≠ q.name :=
          fun heq => hnot ⟨heq ▸ hkeeps.1, heq ▸ hseen⟩
        have hsame : KeepsName rest i p ∧ p.name ∉ seen ↔
            (KeepsName rest i p ∧ p.name ≠ q.name) ∧ p.name ∉ seen := by
          constructor
          · rintro ⟨hkeeps, hseen⟩
            exact ⟨⟨hkeeps, hother hkeeps hseen⟩, hseen⟩
          · rintro ⟨⟨hkeeps, -⟩, hseen⟩
            exact ⟨hkeeps, hseen⟩
        congr 2
        exact propext hsame

open Classical in
theorem getElem?_paramNames {i : Nat} {p : Abi.Param} (h : params[i]? = some p) :
    (paramNames params)[i]? =
      some (if KeepsName params i p then p.name else positional (keptNames params) i) := by
  rw [paramNames, getElem?_paramNamesFrom h, Nat.zero_add]
  simp only [List.not_mem_nil, not_false_eq_true, and_true]

/-- The names of parameters, where a positional name counts as used for those after it. -/
def paramNamesCounting (used seen : List String) (index : Nat) : List Abi.Param → List String
  | [] => []
  | p :: rest =>
    if isIdentifier p.name ∧ p.name ∉ seen then
      p.name :: paramNamesCounting used (p.name :: seen) (index + 1) rest
    else
      let name := positional used index
      name :: paramNamesCounting (name :: used) seen (index + 1) rest

/-- Names for earlier positions are never in the way. -/
theorem paramNamesCounting_eq {earlier : List String} {index : Nat}
    (h : ∀ name ∈ earlier, ∃ i < index, ∃ count, name = padded ("arg" ++ toString i) count) :
    paramNamesCounting (earlier ++ used) seen index params =
      paramNamesFrom used seen index params := by
  induction params generalizing earlier seen index with
  | nil => rfl
  | cons p rest ih =>
    have hlater : ∀ name ∈ earlier, ∃ i < index + 1, ∃ count,
        name = padded ("arg" ++ toString i) count := by
      intro name hname
      obtain ⟨i, hi, hcount⟩ := h name hname
      exact ⟨i, Nat.lt_succ_of_lt hi, hcount⟩
    rw [paramNamesCounting, paramNamesFrom]
    split
    · rw [ih hlater]
    · have hsame : positional (earlier ++ used) index = positional used index := by
        refine positional_congr fun count => ?_
        rw [List.mem_append]
        refine or_iff_right fun hmem => ?_
        obtain ⟨i, hi, count', heq⟩ := h _ hmem
        have := padded_arg_injective heq
        omega
      obtain ⟨count, hcount, -⟩ := positional_eq used index
      have hnew : ∀ name ∈ positional used index :: earlier, ∃ i < index + 1, ∃ count,
          name = padded ("arg" ++ toString i) count :=
        List.forall_mem_cons.2 ⟨⟨index, Nat.lt_succ_self _, count, hcount⟩, hlater⟩
      simp only [hsame, ← List.cons_append, ih hnew]

/-- A positional name is no parameter's own: those that are identifiers count as used. -/
theorem positional_ne_own {p : Abi.Param} (hp : p ∈ params) (index : Nat) :
    positional (keptNames params) index ≠ p.name := by
  intro heq
  have hident : isIdentifier p.name = true := heq ▸ isIdentifier_positional _ index
  exact positional_not_mem _ index (heq ▸ mem_keptNames.2 ⟨⟨p, hp, rfl⟩, hident⟩)

/-- What the names of a list are. A parameter keeps its name just if it is an identifier and no
parameter before has it, and then no other gets that name. Otherwise its name is `arg`, its position
and the fewest underscores with which no parameter of the list can keep that name; so it depends on
the position and those names alone, and counting the positional names as used too makes no
difference. -/
theorem paramNames_positions (params : List Abi.Param) :
    (paramNames params).length = params.length ∧ (paramNames params).Nodup ∧
      (∀ name ∈ paramNames params, isIdentifier name = true) ∧
      (∀ i p, params[i]? = some p → ∃ name, (paramNames params)[i]? = some name ∧
        (name = p.name ↔ KeepsName params i p) ∧
        (KeepsName params i p → ∀ j, (paramNames params)[j]? = some p.name → j = i) ∧
        (¬KeepsName params i p → ∃ count, name = padded ("arg" ++ toString i) count ∧
          name ∉ keptNames params ∧
          ∀ fewer < count, padded ("arg" ++ toString i) fewer ∈ keptNames params)) ∧
      paramNames params = paramNamesCounting (keptNames params) [] 0 params := by
  refine ⟨length_paramNames params, nodup_paramNames params,
    fun name => isIdentifier_of_mem_paramNames, ?_, ?_⟩
  · intro i p hp
    have hname := getElem?_paramNames hp
    by_cases hkeeps : KeepsName params i p
    · rw [if_pos hkeeps] at hname
      refine ⟨p.name, hname, by simp [hkeeps], ?_, fun hnot => absurd hkeeps hnot⟩
      intro _ j hj
      obtain ⟨hlt, -⟩ := List.getElem?_eq_some_iff.1 hj
      exact (List.getElem?_inj hlt (nodup_paramNames params)).1 (hj.trans hname.symm)
    · rw [if_neg hkeeps] at hname
      have hne := positional_ne_own (List.mem_of_getElem? hp) i
      refine ⟨_, hname, by simp [hne, hkeeps], fun h => absurd h hkeeps, fun _ => ?_⟩
      obtain ⟨count, heq, hfewer⟩ := positional_eq (keptNames params) i
      exact ⟨count, heq, positional_not_mem _ i, hfewer⟩
  · have hnone : ∀ name ∈ ([] : List String),
        ∃ i < 0, ∃ count, name = padded ("arg" ++ toString i) count := by simp
    exact (paramNamesCounting_eq hnone).symm

/-- The second and third parameter have the names that the first would get, and the last repeats
one of them. -/
example :
    paramNames [.mk "" "bool" none none [], .mk "arg0" "bool" none none [],
      .mk "arg0_" "bool" none none [], .mk "arg0" "bool" none none []] =
      ["arg0__", "arg0", "arg0_", "arg3"] := by
  decide

end ContractBindings.Naming
