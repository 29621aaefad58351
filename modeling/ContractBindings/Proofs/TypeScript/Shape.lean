import ContractBindings.Proofs.TypeScript.ReadBack

/-!
# The shape of an ABI type

An ABI type is a base with dimensions behind it, each of them `[`, digits and `]`. Every text is so
in one way only, and its TypeScript type follows from the base and the number of dimensions.

1. `withoutDimension?_iff`, `append_dimension_injective`: where the last dimension starts.
2. `exists_shape`, `dimensioned_injective`: every text has one shape.
3. `ofScalar_eq`: the type of a base, said with what stands in it.
4. `ofAbi_dimensioned`, `text_nested`: the type of a base with dimensions, and how it is written.
5. `ofAbi_shaped`: all of this for any text.
-/

namespace ContractBindings.TypeScript

/-! ## Shapes -/

/-- Decimal digits, or nothing. -/
def Digits (size : String) : Prop :=
  ∀ c ∈ size.toList, c.isDigit = true

instance (size : String) : Decidable (Digits size) :=
  inferInstanceAs (Decidable (∀ c ∈ size.toList, c.isDigit = true))

/-- A dimension, with its size or none. -/
def dimension (size : String) : String := "[" ++ size ++ "]"

/-- The text does not end in a dimension. -/
def Undimensioned (base : String) : Prop :=
  ∀ rest size, Digits size → base ≠ rest ++ dimension size

/-- A base with dimensions behind it. -/
def dimensioned (base : String) (sizes : List String) : String :=
  base ++ String.join (sizes.map dimension)

/-- An ABI type taken apart. All dimensions at its end count as such, so that the base ends in
none. -/
@[ext]
structure Shape where
  base : String
  sizes : List String
  undimensioned : Undimensioned base
  digits : ∀ size ∈ sizes, Digits size

namespace Shape

/-- The ABI type of this shape. -/
def text (s : Shape) : String := dimensioned s.base s.sizes

/-- The shape with one more dimension at its end. -/
def concat (s : Shape) (size : String) (h : Digits size) : Shape where
  base := s.base
  sizes := s.sizes ++ [size]
  undimensioned := s.undimensioned
  digits := List.forall_mem_append.2 ⟨s.digits, List.forall_mem_singleton.2 h⟩

end Shape

theorem dimensioned_nil (base : String) : dimensioned base [] = base := by
  simp [dimensioned]

theorem dimensioned_concat (base : String) (sizes : List String) (size : String) :
    dimensioned base (sizes ++ [size]) = dimensioned base sizes ++ dimension size := by
  simp [dimensioned, String.append_assoc]

theorem Shape.text_concat (s : Shape) {size : String} (h : Digits size) :
    (s.concat size h).text = s.text ++ dimension size :=
  dimensioned_concat s.base s.sizes size

/-! ## The last dimension -/

theorem reverse_dimension (rest size : String) :
    (rest ++ dimension size).toList.reverse =
      ']' :: (size.toList.reverse ++ '[' :: rest.toList.reverse) := by
  simp [dimension]

/-- What one dimension is taken off from, both written backwards. -/
theorem withoutDimension?_iff {abi element : List Char} :
    TsType.withoutDimension? abi = some element ↔
      ∃ size, (∀ c ∈ size, c.isDigit = true) ∧ abi = ']' :: (size ++ '[' :: element) := by
  constructor
  · intro h
    unfold TsType.withoutDimension? at h
    split at h
    · next rest =>
      split at h
      · next shorter hrest =>
        obtain rfl := Option.some.inj h
        refine ⟨rest.takeWhile Char.isDigit, fun c hc => List.mem_takeWhile_imp hc, ?_⟩
        rw [← hrest, List.takeWhile_append_dropWhile]
      · simp at h
    · simp at h
  · rintro ⟨size, hsize, rfl⟩
    rw [TsType.withoutDimension?, List.dropWhile_append_of_pos hsize]
    rfl

theorem withoutDimension?_dimension (rest : String) {size : String} (h : Digits size) :
    TsType.withoutDimension? (rest ++ dimension size).toList.reverse =
      some rest.toList.reverse :=
  withoutDimension?_iff.2
    ⟨size.toList.reverse, fun c hc => h c (List.mem_reverse.1 hc), reverse_dimension rest size⟩

theorem exists_dimension {abi : String} {element : List Char}
    (h : TsType.withoutDimension? abi.toList.reverse = some element) :
    ∃ size, Digits size ∧ abi = String.ofList element.reverse ++ dimension size := by
  obtain ⟨size, hsize, habi⟩ := withoutDimension?_iff.1 h
  refine ⟨String.ofList size.reverse, fun c hc => hsize c (by simpa using hc), ?_⟩
  rw [← String.toList_inj, ← List.reverse_inj, habi, reverse_dimension]
  simp

theorem undimensioned_iff {base : String} :
    Undimensioned base ↔ TsType.withoutDimension? base.toList.reverse = none := by
  rw [← Option.not_isSome_iff_eq_none, Option.isSome_iff_exists]
  constructor
  · rintro hbase ⟨element, helement⟩
    obtain ⟨size, hsize, habi⟩ := exists_dimension helement
    exact hbase _ size hsize habi
  · rintro hnone rest size hsize rfl
    exact hnone ⟨_, withoutDimension?_dimension rest hsize⟩

/-- The last bracket that opens is that of the last dimension, since a size holds none. -/
theorem append_dimension_injective {rest rest' size size' : String} (h : Digits size)
    (h' : Digits size') (heq : rest ++ dimension size = rest' ++ dimension size') :
    rest = rest' ∧ size = size' := by
  have bracket {size : String} (h : Digits size) : '[' ∉ size.toList.reverse := fun hmem =>
    absurd (h '[' (List.mem_reverse.1 hmem)) (by decide)
  have hlist := congrArg (fun text : String => text.toList.reverse) heq
  simp only [reverse_dimension, List.cons.injEq, true_and] at hlist
  obtain ⟨hsize, hrest⟩ := cut (bracket h) (bracket h') hlist
  exact ⟨String.toList_inj.1 (List.reverse_injective hrest),
    String.toList_inj.1 (List.reverse_injective hsize)⟩

/-! ## One shape -/

/-- Every text has a shape: dimensions are taken off as long as there are any. -/
theorem exists_shape (abi : String) : ∃ s : Shape, s.text = abi := by
  induction hchars : abi.toList.reverse using TsType.ofReversed.induct generalizing abi with
  | case1 chars element hfound ih =>
    subst hchars
    obtain ⟨size, hsize, rfl⟩ := exists_dimension hfound
    obtain ⟨s, hs⟩ := ih (String.ofList element.reverse) (by simp)
    exact ⟨s.concat size hsize, by rw [Shape.text_concat, hs]⟩
  | case2 chars hfound =>
    subst hchars
    exact ⟨⟨abi, [], undimensioned_iff.2 hfound, by simp⟩, dimensioned_nil abi⟩

/-- A text has no two shapes. -/
theorem dimensioned_injective {base base' : String} {sizes sizes' : List String}
    (hbase : Undimensioned base) (hbase' : Undimensioned base')
    (hsizes : ∀ size ∈ sizes, Digits size) (hsizes' : ∀ size ∈ sizes', Digits size)
    (h : dimensioned base sizes = dimensioned base' sizes') : base = base' ∧ sizes = sizes' := by
  induction sizes using List.reverseRecOn generalizing sizes' with
  | nil =>
    rw [dimensioned_nil] at h
    rcases List.eq_nil_or_concat' sizes' with rfl | ⟨sizes', size', rfl⟩
    · exact ⟨h.trans (dimensioned_nil base'), rfl⟩
    · rw [dimensioned_concat] at h
      exact absurd h (hbase _ _ (hsizes' size' (by simp)))
  | append_singleton sizes size ih =>
    rw [dimensioned_concat] at h
    rcases List.eq_nil_or_concat' sizes' with rfl | ⟨sizes', size', rfl⟩
    · rw [dimensioned_nil] at h
      exact absurd h.symm (hbase' _ _ (hsizes size (by simp)))
    · rw [dimensioned_concat] at h
      rw [List.forall_mem_append, List.forall_mem_singleton] at hsizes hsizes'
      obtain ⟨hrest, rfl⟩ := append_dimension_injective hsizes.2 hsizes'.2 h
      obtain ⟨rfl, rfl⟩ := ih hsizes.1 hsizes'.1 hrest
      exact ⟨rfl, rfl⟩

theorem Shape.text_injective {s s' : Shape} (h : s.text = s'.text) : s = s' := by
  obtain ⟨hbase, hsizes⟩ :=
    dimensioned_injective s.undimensioned s'.undimensioned s.digits s'.digits h
  exact Shape.ext hbase hsizes

/-! ## The type of a base -/

/-- `bytes`, with a width behind it or none. -/
def IsBytes (base : String) : Prop :=
  ∃ width, Digits width ∧ base = "bytes" ++ width

theorem isBytes_iff {base : String} :
    IsBytes base ↔
      "bytes".toList <+: base.toList ∧ (base.toList.drop 5).all Char.isDigit = true := by
  constructor
  · rintro ⟨width, hwidth, rfl⟩
    rw [String.toList_append]
    exact ⟨List.prefix_append _ _, List.all_eq_true.2 hwidth⟩
  · rintro ⟨⟨width, hbase⟩, hwidth⟩
    have hdrop : base.toList.drop 5 = width := by
      rw [← hbase]
      rfl
    rw [hdrop, List.all_eq_true] at hwidth
    refine ⟨String.ofList width, fun c hc => hwidth c (by simpa using hc), ?_⟩
    rw [← String.toList_inj, ← hbase]
    simp

instance (base : String) : Decidable (IsBytes base) :=
  decidable_of_iff _ isBytes_iff.symm

/-- The type of a base. Whatever stands around `int`, the base is one of integers. -/
def scalarType (base : String) : TsType :=
  if "int".toList <:+: base.toList then .bigInt
  else if base = "bool" then .boolean
  else if base = "address" ∨ base = "string" ∨ IsBytes base then .string
  else .any

theorem containsInt_iff {base : List Char} :
    TsType.containsInt base = true ↔ "int".toList <:+: base := by
  fun_induction TsType.containsInt base with
  | case1 rest => exact iff_of_true rfl (List.prefix_append "int".toList rest).isInfix
  | case2 c rest hother ih =>
    rw [ih, List.infix_cons_iff, or_iff_right]
    rintro ⟨after, hafter⟩
    obtain ⟨rfl, rfl⟩ := List.cons.inj hafter
    exact hother after rfl rfl
  | case3 => exact iff_of_false Bool.false_ne_true (by decide)

theorem ofScalar_eq (base : String) : TsType.ofScalar base.toList = scalarType base := by
  unfold TsType.ofScalar scalarType
  simp only [containsInt_iff, String.toList_inj, ← or_assoc]
  by_cases hnamed : base = "address" ∨ base = "string"
  · simp only [hnamed, true_or, if_true]
  simp only [hnamed, false_or, if_false]
  -- the conditions before are the same, and what is left tells bytes from all else
  congr 2
  split
  · next width hbase =>
    have hwidth : IsBytes base ↔ width.all Char.isDigit = true := by
      rw [isBytes_iff, hbase]
      exact and_iff_right ⟨width, rfl⟩
    simp only [hwidth]
  · next hother =>
    rw [if_neg]
    rintro ⟨width, -, rfl⟩
    exact hother width.toList (by simp)

/-! ## The type of a text -/

theorem ofAbi_dimension (rest : String) {size : String} (h : Digits size) :
    TsType.ofAbi (rest ++ dimension size) = .array (TsType.ofAbi rest) := by
  have hfound := withoutDimension?_dimension rest h
  rw [TsType.ofAbi, TsType.ofReversed]
  split
  · next element helement =>
    obtain rfl := Option.some.inj (hfound.symm.trans helement)
    rfl
  · next hnone => exact absurd (hfound.symm.trans hnone) (by simp)

theorem ofAbi_base {base : String} (h : Undimensioned base) :
    TsType.ofAbi base = scalarType base :=
  (ofAbi_scalar (undimensioned_iff.1 h)).trans (ofScalar_eq base)

/-- Each dimension puts an array around the type of the base. -/
theorem ofAbi_dimensioned {base : String} (h : Undimensioned base) {sizes : List String}
    (hsizes : ∀ size ∈ sizes, Digits size) :
    TsType.ofAbi (dimensioned base sizes) = (scalarType base).nested sizes.length := by
  induction sizes using List.reverseRecOn with
  | nil => rw [dimensioned_nil, ofAbi_base h, List.length_nil, TsType.nested]
  | append_singleton sizes size ih =>
    rw [List.forall_mem_append, List.forall_mem_singleton] at hsizes
    rw [dimensioned_concat, ofAbi_dimension _ hsizes.2, ih hsizes.1, List.length_append,
      List.length_singleton, TsType.nested]

theorem text_nested (scalar : TsType) (levels : Nat) :
    (scalar.nested levels).text = scalar.text ++ String.join (List.replicate levels "[]") := by
  induction levels with
  | zero => simp [TsType.nested]
  | succ levels ih =>
    rw [TsType.nested, TsType.text, ih, List.replicate_succ', String.join_append,
      String.append_assoc]
    simp

/-- The type of an ABI type follows from its shape, which every text has and none has two of: as
many arrays as there are dimensions around the type of the base. So it is written as that type and
as many times `[]`, and one more dimension is one more array; and no two types are written alike. -/
theorem ofAbi_shaped (abi : String) :
    (∃! s : Shape, s.text = abi) ∧
      (∀ s : Shape, s.text = abi →
        TsType.ofAbi abi = (scalarType s.base).nested s.sizes.length ∧
          (TsType.ofAbi abi).text =
            (scalarType s.base).text ++ String.join (List.replicate s.sizes.length "[]")) ∧
      (∀ size, Digits size → TsType.ofAbi (abi ++ dimension size) = .array (TsType.ofAbi abi)) ∧
      ∀ t t' : TsType, t.text = t'.text → t = t' := by
  refine ⟨?_, ?_, fun size => ofAbi_dimension abi, fun t t' => typeText_injective⟩
  · obtain ⟨s, hs⟩ := exists_shape abi
    exact ⟨s, hs, fun s' hs' => Shape.text_injective (hs'.trans hs.symm)⟩
  · rintro s rfl
    have htype : TsType.ofAbi s.text = (scalarType s.base).nested s.sizes.length :=
      ofAbi_dimensioned s.undimensioned s.digits
    exact ⟨htype, by rw [htype, text_nested]⟩

/-- A dimension whose size is no number belongs to the base, with all before it. -/
example : TsType.ofAbi "bytes4[2][x][3][]" = .array (.array .any) := by
  decide +kernel

end ContractBindings.TypeScript
