import ContractBindings.Proofs.Json.RoundTrip

/-!
# The characters of written JSON

Written JSON holds no control characters but the ends of its lines. Numbers are written with digits
and a few marks, and in texts control characters are escaped.

1. `printed_escape`, `printed_text`: texts and numbers.
2. `printed_prettyChars`: the pretty layout of a value.
-/

namespace ContractBindings

/-- No control character, or the end of a line. -/
def Printed (c : Char) : Prop := c = '\n' ∨ 0x20 ≤ c.toNat

instance (c : Char) : Decidable (Printed c) := inferInstanceAs (Decidable (_ ∨ _))

/-- All characters are printed. -/
def AllPrinted (cs : List Char) : Prop := ∀ c ∈ cs, Printed c

instance (cs : List Char) : Decidable (AllPrinted cs) := List.decidableBAll Printed cs

theorem printed_nil : AllPrinted [] := by decide

theorem not_printed_escape : ¬Printed '\x1b' := by decide

theorem printed_of_isDigit {c : Char} (h : c.isDigit = true) : Printed c := by
  have hbounds := h
  simp only [Char.isDigit, Bool.and_eq_true, decide_eq_true_eq] at hbounds
  have hlow : '0'.toNat ≤ c.toNat := hbounds.1
  exact .inr (Nat.le_trans (by decide) hlow)

theorem printed_toDigits {n : Nat} : AllPrinted (Nat.toDigits 10 n) :=
  fun _ hc => printed_of_isDigit (Nat.isDigit_of_mem_toDigits (by omega) (by omega) hc)

/-! ## Numbers -/

theorem printed_replicate {n : Nat} {c : Char} (h : Printed c) :
    AllPrinted (List.replicate n c) := by
  intro c' hc'
  rwa [List.eq_of_mem_replicate hc']

theorem printed_append {xs ys : List Char} (hxs : AllPrinted xs) (hys : AllPrinted ys) :
    AllPrinted (xs ++ ys) :=
  List.forall_mem_append.2 ⟨hxs, hys⟩

theorem printed_cons {c : Char} {xs : List Char} (hc : Printed c) (hxs : AllPrinted xs) :
    AllPrinted (c :: xs) :=
  List.forall_mem_cons.2 ⟨hc, hxs⟩

theorem printed_exponentText (e : Int) : AllPrinted (Decimal.exponentText e) := by
  unfold Decimal.exponentText
  refine printed_cons (by decide) (printed_cons ?_ printed_toDigits)
  split <;> decide

theorem printed_decimal (x : Decimal) : AllPrinted x.text := by
  have hdigits := @printed_toDigits x.digits
  unfold Decimal.text
  simp only
  split
  · exact printed_append (printed_append hdigits (printed_replicate (by decide))) (by decide)
  split
  · exact printed_append (fun c hc => hdigits c (List.mem_of_mem_take hc))
      (printed_cons (by decide) fun c hc => hdigits c (List.mem_of_mem_drop hc))
  split
  · exact printed_append (printed_append (by decide) (printed_replicate (by decide))) hdigits
  generalize Nat.toDigits 10 x.digits = digits at hdigits
  split
  · next d =>
    exact printed_cons (hdigits d List.mem_cons_self) (printed_exponentText _)
  · next d rest =>
    obtain ⟨hfirst, hrest⟩ := List.forall_mem_cons.1 hdigits
    exact printed_cons hfirst
      (printed_cons (by decide) (printed_append hrest (printed_exponentText _)))
  · exact printed_nil

theorem printed_binary64 (x : Binary64) : AllPrinted x.text := by
  have hdigits : AllPrinted
      (if x.magnitude.isZero then ['0', '.', '0'] else x.magnitude.shortest.text) := by
    split
    · decide
    · exact printed_decimal _
  unfold Binary64.text
  simp only
  split
  · exact printed_cons (by decide) hdigits
  · exact hdigits

namespace Json

theorem printed_number (n : Number) : AllPrinted n.written := by
  cases n with
  | integer n =>
    rw [Number.written, writtenInteger]
    split
    · exact printed_cons (by decide) printed_toDigits
    · exact printed_toDigits
  | binary64 x => exact printed_binary64 x

/-! ## Texts -/

theorem printed_digitChar {n : Nat} (h : n < 16) : Printed (Nat.digitChar n) := by
  revert h
  revert n
  decide

/-- A control character is escaped. -/
theorem printed_escape (c : Char) : AllPrinted (escape c) := by
  unfold escape
  split
  case h_8 =>
    split
    · next hcontrol =>
      refine printed_append (by decide) (printed_cons (printed_digitChar (by omega))
        (printed_cons (printed_digitChar (by omega)) printed_nil))
    · next hcontrol =>
      exact printed_cons (.inr (Nat.le_of_not_lt hcontrol)) printed_nil
  all_goals decide

theorem printed_writtenText (s : String) : AllPrinted (writtenText s) := by
  refine printed_cons (by decide) (printed_append (fun c hc => ?_) (by decide))
  obtain ⟨c', -, hc⟩ := List.mem_flatMap.1 hc
  exact printed_escape c' c hc

/-! ## Values -/

theorem printed_newLine (level : Nat) : AllPrinted (newLine level) :=
  printed_cons (by decide) (printed_replicate (by decide))

mutual

theorem printed_prettyChars (level : Nat) : ∀ v : Json, AllPrinted (prettyChars level v)
  | .null => by simp only [prettyChars]; decide
  | .bool true => by simp only [prettyChars]; decide
  | .bool false => by simp only [prettyChars]; decide
  | .number n => by simpa only [prettyChars] using printed_number n
  | .text s => by simpa only [prettyChars] using printed_writtenText s
  | .array [] => by simp only [prettyChars]; decide
  | .array (v :: rest) => by
    rw [prettyChars]
    exact printed_append (printed_append (printed_cons (by decide) (printed_newLine _))
      (printed_prettyChars (level + 1) v)) (printed_prettyElements level rest)
  | .object [] => by simp only [prettyChars]; decide
  | .object ((k, v) :: rest) => by
    rw [prettyChars]
    exact printed_append (printed_append (printed_append (printed_append
      (printed_cons (by decide) (printed_newLine _)) (printed_writtenText k)) (by decide))
      (printed_prettyChars (level + 1) v)) (printed_prettyMembers level rest)

theorem printed_prettyElements (level : Nat) :
    ∀ vs : List Json, AllPrinted (prettyElements level vs)
  | [] => by
    rw [prettyElements]
    exact printed_append (printed_newLine _) (by decide)
  | v :: rest => by
    rw [prettyElements]
    exact printed_append (printed_append (printed_cons (by decide) (printed_newLine _))
      (printed_prettyChars (level + 1) v)) (printed_prettyElements level rest)

theorem printed_prettyMembers (level : Nat) :
    ∀ ms : List (String × Json), AllPrinted (prettyMembers level ms)
  | [] => by
    rw [prettyMembers]
    exact printed_append (printed_newLine _) (by decide)
  | (k, v) :: rest => by
    rw [prettyMembers]
    exact printed_append (printed_append (printed_append (printed_append
      (printed_cons (by decide) (printed_newLine _)) (printed_writtenText k)) (by decide))
      (printed_prettyChars (level + 1) v)) (printed_prettyMembers level rest)

end

/-- The pretty layout of a value holds no control character but line ends. -/
theorem printed_pretty (v : Json) : AllPrinted v.pretty.toList := by
  rw [pretty, String.toList_ofList]
  exact printed_prettyChars 0 v

end Json

end ContractBindings
