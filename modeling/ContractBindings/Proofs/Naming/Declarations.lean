import ContractBindings.Naming.Declarations
import ContractBindings.Proofs.Naming.Parameters
import ContractBindings.Proofs.Naming.ScreamingSnake

/-!
# Declarations as identifiers

The declarations of a contract that is called by an identifier are to be called by identifiers too.
Types and the deploying function are. A constant drops the underscores at the start of the name, and
then may start with a digit that stood behind them.

1. `startsIdentifier_toUpper`, `isDigit_toUpper`: what a change of case leaves as it is.
2. `startsIdentifier_eq`: only digits may go on in an identifier and not start one.
3. `isIdentifier_append`, `isIdentifier_upperFirst`: how identifiers are put together.
4. `isIdentifier_constant`: when a constant is an identifier.
5. `isIdentifier_declarations`: which declarations are called by identifiers, and
   `constant_led_by_digit`: that constants need not be.
-/

namespace ContractBindings.Naming

/-! ## Characters -/

theorem toNat_of_isAlpha {c : Char} (h : c.isAlpha = true) : 65 ≤ c.toNat ∧ c.toNat ≤ 122 := by
  simp [Char.isAlpha, Char.isUpper, Char.isLower, UInt32.le_iff_toNat_le] at h
  omega

theorem not_isDigit_of_isAlpha {c : Char} (h : c.isAlpha = true) : c.isDigit = false := by
  rw [Bool.eq_false_iff, ne_eq, Char.isDigit_iff_toNat]
  rintro ⟨-, hnine⟩
  exact absurd (Nat.le_trans (toNat_of_isAlpha h).1 hnine) (by decide)

theorem startsIdentifier_toUpper (c : Char) :
    startsIdentifier c.toUpper = startsIdentifier c := by
  by_cases h : c.isAlpha = true
  · simp [startsIdentifier, Char.isAlpha_toUpper_eq_isAlpha, h]
  · rw [toUpper_of_not_isAlpha (Bool.eq_false_iff.2 h)]

theorem isDigit_toUpper (c : Char) : c.toUpper.isDigit = c.isDigit := by
  by_cases h : c.isAlpha = true
  · rw [not_isDigit_of_isAlpha h, not_isDigit_of_isAlpha]
    rw [Char.isAlpha_toUpper_eq_isAlpha, h]
  · rw [toUpper_of_not_isAlpha (Bool.eq_false_iff.2 h)]

theorem continuesIdentifier_toUpper (c : Char) :
    continuesIdentifier c.toUpper = continuesIdentifier c := by
  rw [continuesIdentifier_eq, continuesIdentifier_eq, startsIdentifier_toUpper, isDigit_toUpper]

theorem not_isDigit_of_starts {c : Char} (h : startsIdentifier c = true) : c.isDigit = false := by
  simp only [startsIdentifier, Bool.or_eq_true, beq_iff_eq] at h
  rcases h with (hletter | rfl) | rfl
  · exact not_isDigit_of_isAlpha hletter
  · rfl
  · rfl

/-- What goes on in an identifier may start one, but for digits. -/
theorem startsIdentifier_eq {c : Char} (h : continuesIdentifier c = true) :
    startsIdentifier c = !c.isDigit := by
  rw [continuesIdentifier_eq, Bool.or_eq_true] at h
  rcases h with hstart | hdigit
  · rw [hstart, not_isDigit_of_starts hstart]
    rfl
  · rw [hdigit, Bool.not_true, Bool.eq_false_iff]
    intro hstart
    simp [not_isDigit_of_starts hstart] at hdigit

theorem upper_of_starts {c : Char} (h : startsIdentifier c = true) :
    Text.upper c = [c.toUpper] := by
  have hascii : c.toNat < 0x80 := by
    simp only [startsIdentifier, Bool.or_eq_true, beq_iff_eq] at h
    rcases h with (hletter | rfl) | rfl
    · exact Nat.lt_of_le_of_lt (toNat_of_isAlpha hletter).2 (by decide)
    · decide
    · decide
  exact if_pos hascii

/-! ## Identifiers -/

theorem isIdentifier_of_continues {name : String}
    (h : ∀ c ∈ name.toList, continuesIdentifier c = true) :
    isIdentifier name = name.toList.head?.any startsIdentifier := by
  rw [isIdentifier]
  cases hlist : name.toList with
  | nil => rfl
  | cons first rest =>
    rw [hlist, List.forall_mem_cons] at h
    rw [formIdentifier, List.all_eq_true.2 h.2, Bool.and_true]
    rfl

theorem exists_head {name : String} (h : isIdentifier name = true) :
    ∃ first rest, name.toList = first :: rest ∧ startsIdentifier first = true := by
  rw [isIdentifier] at h
  cases hlist : name.toList with
  | nil => simp [hlist, formIdentifier] at h
  | cons first rest =>
    rw [hlist, formIdentifier, Bool.and_eq_true] at h
    exact ⟨first, rest, rfl, h.1⟩

theorem isIdentifier_append {name suffix : String} (h : isIdentifier name = true)
    (hsuffix : suffix.toList.all continuesIdentifier = true) :
    isIdentifier (name ++ suffix) = true := by
  obtain ⟨first, rest, hlist, hfirst⟩ := exists_head h
  rw [isIdentifier_of_continues, String.toList_append, hlist, List.cons_append, List.head?_cons,
    Option.any_some, hfirst]
  intro c hc
  rw [String.toList_append, List.mem_append] at hc
  exact hc.elim (continues_of_mem h) (List.all_eq_true.1 hsuffix c)

theorem toList_upperFirst {name : String} {first : Char} {rest : List Char}
    (h : name.toList = first :: rest) (hfirst : startsIdentifier first = true) :
    (upperFirst name).toList = first.toUpper :: rest := by
  simp [upperFirst, h, upper_of_starts hfirst]

theorem isIdentifier_upperFirst {name : String} (h : isIdentifier name = true) :
    isIdentifier (upperFirst name) = true := by
  obtain ⟨first, rest, hlist, hfirst⟩ := exists_head h
  rw [isIdentifier, hlist, formIdentifier, Bool.and_eq_true] at h
  rw [isIdentifier, toList_upperFirst hlist hfirst, formIdentifier, startsIdentifier_toUpper,
    hfirst, h.2, Bool.and_true]

/-! ## Constants -/

/-- The first character behind the underscores at the start of the name is a digit. -/
def ledByDigit (name : String) : Bool :=
  (name.toList.dropWhile (· == '_')).head?.any Char.isDigit

/-- Underscores are all that parts words in an identifier. -/
theorem isSeparator_eq {c : Char} (h : continuesIdentifier c = true) :
    isSeparator c = (c == '_') := by
  have hne (mark : Char) (hmark : continuesIdentifier mark = false) : (c == mark) = false := by
    refine beq_false_of_ne ?_
    rintro rfl
    simp [h] at hmark
  rw [isSeparator, hne '-' rfl, hne '.' rfl, hne ' ' rfl, Bool.or_false, Bool.or_false,
    Bool.or_false]

theorem dropWhile_isSeparator {chars : List Char}
    (h : ∀ c ∈ chars, continuesIdentifier c = true) :
    chars.dropWhile isSeparator = chars.dropWhile (· == '_') := by
  induction chars with
  | nil => rfl
  | cons c rest ih =>
    rw [List.forall_mem_cons] at h
    rw [List.dropWhile_cons, List.dropWhile_cons, isSeparator_eq h.1, ih h.2]

/-- A change of case makes or loses no digit, and no underscore. -/
theorem ledByDigit_upperFirst {name : String} (h : isIdentifier name = true) :
    ledByDigit (upperFirst name) = ledByDigit name := by
  obtain ⟨first, rest, hlist, hfirst⟩ := exists_head h
  have hscore : (first.toUpper == '_') = (first == '_') := toUpper_beq rfl first
  simp only [ledByDigit, toList_upperFirst hlist hfirst, hlist, List.dropWhile_cons, hscore]
  split
  · rfl
  · simp only [List.head?_cons, Option.any_some, isDigit_toUpper]

/-- A constant is an identifier unless its name is led by a digit. -/
theorem isIdentifier_constant {type suffix : String} (h : isIdentifier type = true)
    (hhead : suffix.toList.head? = some '_')
    (hsuffix : suffix.toList.all continuesIdentifier = true) :
    isIdentifier (screamingSnake type ++ suffix) = !ledByDigit type := by
  have hlist : (screamingSnake type ++ suffix).toList = snake type.toList ++ suffix.toList := by
    simp [screamingSnake]
  have hcontinues : ∀ c ∈ (screamingSnake type ++ suffix).toList, continuesIdentifier c = true := by
    intro c hc
    rw [hlist, List.mem_append] at hc
    rcases hc with hc | hc
    · rcases mem_snake hc with rfl | ⟨d, hd, -, rfl⟩
      · rfl
      · rw [continuesIdentifier_toUpper, continues_of_mem h hd]
    · exact List.all_eq_true.1 hsuffix c hc
  rw [isIdentifier_of_continues hcontinues, hlist, List.head?_append, head?_snake, hhead,
    dropWhile_isSeparator fun c => continues_of_mem h, ledByDigit]
  cases hdrop : (type.toList.dropWhile (· == '_')).head? with
  | none => rfl
  | some c =>
    have hc : c ∈ type.toList := (List.dropWhile_sublist _).mem (List.mem_of_mem_head? hdrop)
    simp only [Option.map_some, Option.some_or, Option.any_some, startsIdentifier_toUpper,
      startsIdentifier_eq (continues_of_mem h hc)]

/-- Types, and the deploying function, of a contract that is called by an identifier are called by
identifiers. Its constants are too, unless a digit is the first character behind underscores at the
start of the contract's name. -/
theorem isIdentifier_declarations {contract : String} (h : isIdentifier contract = true) :
    let d := Declarations.ofContract contract
    (∀ name ∈ [d.contract, d.events, d.constructorParams, d.deploy], isIdentifier name = true) ∧
      ∀ name ∈ [d.abiConstant, d.bytecodeConstant], isIdentifier name = !ledByDigit contract := by
  intro d
  have htype : isIdentifier (upperFirst contract) = true := isIdentifier_upperFirst h
  have hdeploy : isIdentifier ("Deploy" ++ upperFirst contract) = true :=
    isIdentifier_append (by decide) (List.all_eq_true.2 fun c => continues_of_mem htype)
  have hled := ledByDigit_upperFirst h
  simp only [List.forall_mem_cons, List.not_mem_nil, false_imp_iff, implies_true, and_true]
  refine ⟨⟨?_, ?_, ?_, hdeploy⟩, ?_, ?_⟩
  · exact isIdentifier_append htype (by decide)
  · exact isIdentifier_append htype (by decide)
  · exact isIdentifier_append htype (by decide)
  · exact hled ▸ isIdentifier_constant htype (by decide) (by decide)
  · exact hled ▸ isIdentifier_constant htype (by decide) (by decide)

/-- A name that is led by a digit, and one whose first letter hides a digit behind an underscore. -/
theorem isIdentifier_declarations_led :
    isIdentifier "__9lives" = true ∧ isIdentifier "_n_9" = true ∧
      let d := Declarations.ofContract "__9lives"
      let d' := Declarations.ofContract "_n_9"
      isIdentifier d.events = true ∧ isIdentifier d.abiConstant = false ∧
        isIdentifier d'.abiConstant = true := by
  have h : isIdentifier "__9lives" = true := by decide
  have h' : isIdentifier "_n_9" = true := by decide
  obtain ⟨htypes, hconstants⟩ := isIdentifier_declarations h
  obtain ⟨-, hconstants'⟩ := isIdentifier_declarations h'
  refine ⟨h, h', htypes _ (by simp), (hconstants _ List.mem_cons_self).trans (by decide),
    (hconstants' _ List.mem_cons_self).trans (by decide)⟩

/-- The constants of a contract may start with a digit, though its name does not. -/
theorem constant_led_by_digit :
    let d := Declarations.ofContract "_1"
    isIdentifier "_1" = true ∧ d.abiConstant = "1_ABI" ∧ d.bytecodeConstant = "1_BYTECODE" ∧
      ¬∀ name ∈ d.toList, isIdentifier name = true := by
  decide

end ContractBindings.Naming
