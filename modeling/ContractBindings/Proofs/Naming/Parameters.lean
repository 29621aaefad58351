import ContractBindings.Naming.Parameters

/-!
# Names of parameters

Every parameter gets a name that can stand in code, and no two parameters of a list get the same.

1. `firstFree_eq`, `firstFree_not_mem`: the first free name has the fewest underscores, and is free.
2. `positional_eq`, `positional_injective`: the name for a position, and that names for different
   positions differ, whatever names are in use.
3. `isIdentifier_of_mem_paramNames`, `nodup_paramNames`: what the names of a list are.
4. `mem_paramNames_of_kept`, `mem_paramNames_iff`: a name that parameters may keep is kept by the
   first of them, and only names for positions are in the list without being kept.
-/

namespace ContractBindings.Naming

/-! ## Characters of identifiers -/

theorem continuesIdentifier_eq (c : Char) :
    continuesIdentifier c = (startsIdentifier c || c.isDigit) := by
  rw [continuesIdentifier, startsIdentifier, Char.isAlphanum]
  ac_rfl

theorem continues_of_mem {name : String} (h : isIdentifier name = true) {c : Char}
    (hc : c ∈ name.toList) : continuesIdentifier c = true := by
  unfold isIdentifier at h
  cases hlist : name.toList with
  | nil => simp [hlist] at hc
  | cons first rest =>
    rw [hlist, formIdentifier, Bool.and_eq_true, List.all_eq_true] at h
    rw [hlist, List.mem_cons] at hc
    rcases hc with rfl | hrest
    · -- what starts an identifier can go on in it
      rw [continuesIdentifier_eq, h.1, Bool.true_or]
    · exact h.2 c hrest

/-- An identifier holds no mark that cannot go on in one. -/
theorem not_mem_identifier {name : String} (h : isIdentifier name = true) {mark : Char}
    (hmark : continuesIdentifier mark = false) : mark ∉ name.toList := by
  intro hmem
  simp [continues_of_mem h hmem] at hmark

/-! ## Names with underscores -/

/-- A name with underscores after it. -/
def padded (name : String) : Nat → String
  | 0 => name
  | count + 1 => padded (name.push '_') count

theorem toList_padded (name : String) (count : Nat) :
    (padded name count).toList = name.toList ++ List.replicate count '_' := by
  induction count generalizing name with
  | zero => simp [padded]
  | succ count ih => rw [padded, ih, String.toList_push, List.append_assoc]; rfl

theorem padded_injective {name : String} {m n : Nat} (h : padded name m = padded name n) :
    m = n := by
  have hlength := congrArg (·.toList.length) h
  simpa [toList_padded] using hlength

/-- The first free name is the one with the fewest underscores, unless the tries run out. -/
theorem firstFree_eq (used : List String) (tries : Nat) (name : String) :
    ∃ count ≤ tries, firstFree used tries name = padded name count ∧
      (∀ fewer < count, padded name fewer ∈ used) ∧
      (count = tries ∨ padded name count ∉ used) := by
  induction tries generalizing name with
  | zero => exact ⟨0, Nat.le_refl 0, rfl, by simp, .inl rfl⟩
  | succ tries ih =>
    rw [firstFree]
    split
    · next hused =>
      obtain ⟨count, hle, heq, hfewer, hend⟩ := ih (name.push '_')
      refine ⟨count + 1, Nat.succ_le_succ hle, heq, ?_, hend.imp_left (congrArg (· + 1))⟩
      intro fewer hlt
      cases fewer with
      | zero => exact hused
      | succ fewer => exact hfewer fewer (Nat.lt_of_succ_lt_succ hlt)
    · next hfree => exact ⟨0, Nat.zero_le _, rfl, by simp, .inr hfree⟩

/-- There are more names to try than names in use, so a free one is found. -/
theorem firstFree_not_mem {used : List String} {tries : Nat} (h : used.length ≤ tries)
    (name : String) : firstFree used tries name ∉ used := by
  obtain ⟨count, -, heq, hfewer, hend⟩ := firstFree_eq used tries name
  rw [heq]
  rcases hend with rfl | hfree
  · intro hlast
    -- all that were tried would be in use, one more than there are
    have hsub : (List.range (count + 1)).map (padded name) ⊆ used := by
      intro tried hmem
      obtain ⟨n, hn, rfl⟩ := List.mem_map.1 hmem
      rcases Nat.lt_succ_iff_lt_or_eq.1 (List.mem_range.1 hn) with hlt | rfl
      · exact hfewer n hlt
      · exact hlast
    have hnodup : ((List.range (count + 1)).map (padded name)).Nodup :=
      List.Pairwise.map _ (fun _ _ hne h => hne (padded_injective h)) List.nodup_range
    have hlength := hnodup.length_le_of_subset hsub
    rw [List.length_map, List.length_range] at hlength
    omega
  · exact hfree

/-! ## Positional names -/

variable {used seen : List String} {params : List Abi.Param}

/-- A positional name has the fewest underscores with which it is not in use. -/
theorem positional_eq (used : List String) (index : Nat) :
    ∃ count, positional used index = padded ("arg" ++ toString index) count ∧
      ∀ fewer < count, padded ("arg" ++ toString index) fewer ∈ used := by
  obtain ⟨count, -, heq, hfewer, -⟩ := firstFree_eq used used.length ("arg" ++ toString index)
  exact ⟨count, heq, hfewer⟩

theorem toList_padded_arg (index count : Nat) :
    (padded ("arg" ++ toString index) count).toList =
      "arg".toList ++ (Nat.toDigits 10 index ++ List.replicate count '_') := by
  rw [toList_padded, String.toList_append, Nat.toString_eq_repr, Nat.toList_repr,
    List.append_assoc]

theorem toList_positional (used : List String) (index : Nat) :
    ∃ count, (positional used index).toList =
      "arg".toList ++ (Nat.toDigits 10 index ++ List.replicate count '_') := by
  obtain ⟨count, heq, -⟩ := positional_eq used index
  exact ⟨count, by rw [heq, toList_padded_arg]⟩

theorem positional_not_mem (used : List String) (index : Nat) : positional used index ∉ used :=
  firstFree_not_mem (Nat.le_refl _) _

theorem isDigit_of_mem_digits {index : Nat} {c : Char} (h : c ∈ Nat.toDigits 10 index) :
    c.isDigit = true :=
  Nat.isDigit_of_mem_toDigits (by omega) (by omega) h

/-- The digits after `arg` tell the position. -/
theorem padded_arg_injective {i j m n : Nat}
    (h : padded ("arg" ++ toString i) m = padded ("arg" ++ toString j) n) : i = j := by
  have hlist := congrArg String.toList h
  rw [toList_padded_arg, toList_padded_arg, List.append_cancel_left_eq] at hlist
  have digits (index count : Nat) :
      (Nat.toDigits 10 index ++ List.replicate count '_').takeWhile Char.isDigit =
        Nat.toDigits 10 index := by
    rw [List.takeWhile_append_of_pos fun _ => isDigit_of_mem_digits]
    cases count <;> simp [List.replicate_succ]
  have hdigits := congrArg (List.takeWhile Char.isDigit) hlist
  rw [digits, digits] at hdigits
  rw [← Nat.ofDigitChars_ten_toDigits (n := i), hdigits, Nat.ofDigitChars_ten_toDigits]

theorem positional_injective {i j : Nat} (h : positional used i = positional used j) : i = j := by
  obtain ⟨m, hm, -⟩ := positional_eq used i
  obtain ⟨n, hn, -⟩ := positional_eq used j
  exact padded_arg_injective (hm.symm.trans (h.trans hn))

theorem isIdentifier_positional (used : List String) (index : Nat) :
    isIdentifier (positional used index) = true := by
  obtain ⟨count, hlist⟩ := toList_positional used index
  have hrest : ∀ c ∈ Nat.toDigits 10 index ++ List.replicate count '_',
      continuesIdentifier c = true := by
    intro c hc
    rcases List.mem_append.1 hc with hdigit | hscore
    · simp [continuesIdentifier, Char.isAlphanum, isDigit_of_mem_digits hdigit]
    · obtain rfl := List.eq_of_mem_replicate hscore
      rfl
  have harg : "arg".toList = ['a', 'r', 'g'] := rfl
  rw [isIdentifier, hlist, harg, List.cons_append, formIdentifier, List.all_append,
    List.all_eq_true.2 hrest]
  decide

/-! ## The names of a list -/

theorem length_paramNamesFrom (used seen : List String) (index : Nat) (params : List Abi.Param) :
    (paramNamesFrom used seen index params).length = params.length := by
  induction params generalizing seen index with
  | nil => rfl
  | cons p rest ih =>
    rw [paramNamesFrom]
    split <;> rw [List.length_cons, ih, List.length_cons]

theorem length_paramNames (params : List Abi.Param) :
    (paramNames params).length = params.length :=
  length_paramNamesFrom _ _ _ params

theorem keptNames_cons (p : Abi.Param) (rest : List Abi.Param) :
    keptNames (p :: rest) =
      if isIdentifier p.name then p.name :: keptNames rest else keptNames rest := by
  rw [keptNames, List.map_cons, List.filter_cons]
  rfl

theorem mem_keptNames {name : String} :
    name ∈ keptNames params ↔ (∃ p ∈ params, p.name = name) ∧ isIdentifier name = true := by
  simp [keptNames]

theorem keptNames_subset_cons (p : Abi.Param) (rest : List Abi.Param) :
    keptNames rest ⊆ keptNames (p :: rest) := by
  rw [keptNames_cons]
  split
  · exact List.subset_cons_self _ _
  · exact List.Subset.refl _

/-- A name is kept from a parameter that no earlier one has taken it from, or is positional. -/
theorem mem_paramNamesFrom {index : Nat} {name : String}
    (h : name ∈ paramNamesFrom used seen index params) :
    (name ∈ keptNames params ∧ name ∉ seen) ∨ ∃ i, index ≤ i ∧ name = positional used i := by
  induction params generalizing seen index with
  | nil => simp [paramNamesFrom] at h
  | cons p rest ih =>
    rw [paramNamesFrom] at h
    split at h
    · next hkept =>
      rcases List.mem_cons.1 h with rfl | hrest
      · exact .inl ⟨mem_keptNames.2 ⟨⟨p, List.mem_cons_self, rfl⟩, hkept.1⟩, hkept.2⟩
      · rcases ih hrest with ⟨hmem, hseen⟩ | ⟨i, hle, heq⟩
        · exact .inl ⟨keptNames_subset_cons p rest hmem,
            fun hs => hseen (List.mem_cons_of_mem _ hs)⟩
        · exact .inr ⟨i, by omega, heq⟩
    · rcases List.mem_cons.1 h with rfl | hrest
      · exact .inr ⟨index, Nat.le_refl _, rfl⟩
      · rcases ih hrest with ⟨hmem, hseen⟩ | ⟨i, hle, heq⟩
        · exact .inl ⟨keptNames_subset_cons p rest hmem, hseen⟩
        · exact .inr ⟨i, by omega, heq⟩

/-- The names differ, if all that may be kept count as used. -/
theorem nodup_paramNamesFrom {index : Nat} (h : keptNames params ⊆ used) :
    (paramNamesFrom used seen index params).Nodup := by
  induction params generalizing seen index with
  | nil => exact List.nodup_nil
  | cons p rest ih =>
    have hrest : keptNames rest ⊆ used := List.Subset.trans (keptNames_subset_cons p rest) h
    rw [paramNamesFrom]
    split
    · next hkept =>
      have hp : p.name ∈ used := h (mem_keptNames.2 ⟨⟨p, List.mem_cons_self, rfl⟩, hkept.1⟩)
      refine List.nodup_cons.2 ⟨?_, ih hrest⟩
      intro hmem
      rcases mem_paramNamesFrom hmem with ⟨-, hseen⟩ | ⟨i, -, heq⟩
      · exact hseen List.mem_cons_self
      · exact positional_not_mem used i (heq ▸ hp)
    · refine List.nodup_cons.2 ⟨?_, ih hrest⟩
      intro hmem
      rcases mem_paramNamesFrom hmem with ⟨hmem, -⟩ | ⟨i, hle, heq⟩
      · exact positional_not_mem used index (hrest hmem)
      · have := positional_injective heq
        omega

/-- No two parameters of a list have the same name. -/
theorem nodup_paramNames (params : List Abi.Param) : (paramNames params).Nodup :=
  nodup_paramNamesFrom (List.Subset.refl _)

theorem isIdentifier_of_mem_paramNames {name : String} (h : name ∈ paramNames params) :
    isIdentifier name = true := by
  rcases mem_paramNamesFrom h with ⟨hkept, -⟩ | ⟨i, -, rfl⟩
  · exact (mem_keptNames.1 hkept).2
  · exact isIdentifier_positional _ i

theorem mem_paramNamesFrom_of_kept {index : Nat} {name : String} (h : name ∈ keptNames params)
    (hseen : name ∉ seen) : name ∈ paramNamesFrom used seen index params := by
  induction params generalizing seen index with
  | nil => simp [keptNames] at h
  | cons p rest ih =>
    rw [paramNamesFrom]
    by_cases hp : p.name = name
    · subst hp
      rw [if_pos ⟨(mem_keptNames.1 h).2, hseen⟩]
      exact List.mem_cons_self
    · have hrest : name ∈ keptNames rest := by
        obtain ⟨⟨q, hq, hname⟩, hident⟩ := mem_keptNames.1 h
        rcases List.mem_cons.1 hq with rfl | hq
        · exact absurd hname hp
        · exact mem_keptNames.2 ⟨⟨q, hq, hname⟩, hident⟩
      split
      · refine List.mem_cons_of_mem _ (ih hrest ?_)
        exact fun hmem => (List.mem_cons.1 hmem).elim (fun heq => hp heq.symm) hseen
      · exact List.mem_cons_of_mem _ (ih hrest hseen)

/-- A name that parameters may keep is kept by the first of them. -/
theorem mem_paramNames_of_kept {name : String} (h : name ∈ keptNames params) :
    name ∈ paramNames params :=
  mem_paramNamesFrom_of_kept h List.not_mem_nil

/-- An identifier that looks like no positional name is a name of the list just if a parameter has
it as its own. -/
theorem mem_paramNames_iff {name : String} (hident : isIdentifier name = true)
    (harg : "arg".toList.isPrefixOf name.toList = false) :
    name ∈ paramNames params ↔ ∃ p ∈ params, p.name = name := by
  constructor
  · intro h
    rcases mem_paramNamesFrom h with ⟨hkept, -⟩ | ⟨i, -, heq⟩
    · exact (mem_keptNames.1 hkept).1
    · obtain ⟨count, hlist⟩ := toList_positional (keptNames params) i
      rw [heq, hlist] at harg
      simp at harg
  · intro h
    exact mem_paramNames_of_kept (mem_keptNames.2 ⟨h, hident⟩)

end ContractBindings.Naming
