import ContractBindings.Json.Reader
import Mathlib.Algebra.Group.Int.Defs
import Mathlib.Tactic.SplitIfs

/-!
# What the reader of JSON gives

Not every value can be read from a text. What can be read has at most so many levels of arrays and
objects, integers of 64 bits, and objects in which no name stands twice (`Fits`).

1. `readDigits_inRange`: an integer that was read has 64 bits.
2. `nodup_members`: a repeated name takes the place of the earlier one.
3. `read_fits`: all of this holds of every value that was read, at any depth.
-/

namespace ContractBindings.Json

/-- The number is a binary64 number, or an integer of 64 bits, signed or not. -/
def Number.InRange : Number → Prop
  | .integer n => -2 ^ 63 ≤ n ∧ n < 2 ^ 64
  | .binary64 _ => True

/-- `Fits depth v`: the value can be read with at most `depth` levels of arrays and objects. -/
inductive Fits : Nat → Json → Prop
  | null {depth : Nat} : Fits depth .null
  | bool {depth : Nat} {b : Bool} : Fits depth (.bool b)
  | number {depth : Nat} {n : Number} : n.InRange → Fits depth (.number n)
  | text {depth : Nat} {s : String} : Fits depth (.text s)
  | array {depth : Nat} {vs : List Json} :
      (∀ v ∈ vs, Fits depth v) → Fits (depth + 1) (.array vs)
  | object {depth : Nat} {ms : List (String × Json)} :
      (ms.map Prod.fst).Nodup → (∀ m ∈ ms, Fits depth m.2) → Fits (depth + 1) (.object ms)

/-! ## Numbers -/

theorem map_ok {α β ε : Type} {f : α → β} {x : Except ε α} {b : β} (h : x.map f = .ok b) :
    ∃ a, x = .ok a ∧ f a = b := by
  cases x with
  | error e => simp [Except.map] at h
  | ok a =>
    simp only [Except.map, Except.ok.injEq] at h
    exact ⟨a, rfl, h⟩

theorem gather_le {limit value count : Nat} {s : List Char} (h : value ≤ limit) :
    (gather limit value count s).1 ≤ limit := by
  induction s generalizing value count with
  | nil => exact h
  | cons c rest ih =>
    rw [gather]
    split
    · next hc => exact ih hc.2
    · exact h

theorem scaledNumber_inRange {negative : Bool} {digits : Nat} {exponent : Int} {s rest : List Char}
    {n : Number} (h : scaledNumber negative digits exponent s = .ok (n, rest)) : n.InRange := by
  unfold scaledNumber at h
  split at h
  · simp only [Except.ok.injEq, Prod.mk.injEq] at h
    rw [← h.1]
    trivial
  · simp [stop] at h

theorem readExponent_inRange {negative : Bool} {digits : Nat} {exponent : Int}
    {s rest : List Char} {n : Number}
    (h : readExponent negative digits exponent s = .ok (n, rest)) : n.InRange := by
  unfold readExponent at h
  simp only at h
  split at h
  · simp [stop] at h
  · split_ifs at h
    · simp [stop] at h
    · simp only [Except.ok.injEq, Prod.mk.injEq] at h
      rw [← h.1]
      trivial
    · exact scaledNumber_inRange h
    · exact scaledNumber_inRange h
    · simp [stop] at h

theorem readScale_inRange {negative : Bool} {digits : Nat} {exponent : Int} {s rest : List Char}
    {n : Number} (h : readScale negative digits exponent s = .ok (n, rest)) : n.InRange := by
  unfold readScale at h
  split at h
  · exact readExponent_inRange h
  · exact readExponent_inRange h
  · exact scaledNumber_inRange h

theorem readFraction_inRange {negative : Bool} {digits : Nat} {exponent : Int}
    {s rest : List Char} {n : Number}
    (h : readFraction negative digits exponent s = .ok (n, rest)) : n.InRange := by
  unfold readFraction at h
  simp only at h
  split at h
  · exact readScale_inRange h
  · split at h
    · split at h <;> simp [stop] at h
    · exact readScale_inRange h

theorem plainNumber_inRange {negative : Bool} {digits : Nat} (h : digits ≤ greatestUnsigned) :
    (plainNumber negative digits).InRange := by
  unfold greatestUnsigned at h
  unfold plainNumber
  split
  · split
    · next hd =>
      simp only [Number.InRange]
      omega
    · trivial
  · simp only [Number.InRange]
    omega

theorem readTail_inRange {negative : Bool} {digits : Nat} {s rest : List Char} {n : Number}
    (hd : digits ≤ greatestUnsigned) (h : readTail negative digits s = .ok (n, rest)) :
    n.InRange := by
  unfold readTail at h
  split at h
  · exact readFraction_inRange h
  · exact readExponent_inRange h
  · exact readExponent_inRange h
  · simp only [Except.ok.injEq, Prod.mk.injEq] at h
    rw [← h.1]
    exact plainNumber_inRange hd

theorem readLongTail_inRange {negative : Bool} {digits exponent : Nat} {s rest : List Char}
    {n : Number} (h : readLongTail negative digits exponent s = .ok (n, rest)) : n.InRange := by
  unfold readLongTail at h
  split at h
  · exact readFraction_inRange h
  · exact readScale_inRange h

theorem digit_le {c : Char} (h : c.isDigit) : c.toNat - '0'.toNat ≤ 9 := by
  have hc : 48 ≤ c.val.toNat ∧ c.val.toNat ≤ 57 := by
    simpa [Char.isDigit, UInt32.le_iff_toNat_le] using h
  show c.val.toNat - 48 ≤ 9
  omega

/-- Digits are gathered up to `2 ^ 64 - 1`; a number with more of them is no integer. -/
theorem readDigits_inRange {negative : Bool} {s rest : List Char} {n : Number}
    (h : readDigits negative s = .ok (n, rest)) : n.InRange := by
  unfold readDigits at h
  split at h
  · simp [stop] at h
  · split at h
    · simp [stop] at h
    · exact readTail_inRange (Nat.zero_le _) h
  · next c s _ =>
    split at h
    · next hc =>
      simp only at h
      split at h
      · exact readLongTail_inRange h
      · refine readTail_inRange (gather_le ?_) h
        exact Nat.le_trans (digit_le hc) (by decide)
    · simp [stop] at h

/-! ## Members -/

theorem keys_setMember (key : String) (value : Json) (known : List (String × Json)) :
    (setMember key value known).map Prod.fst =
      if key ∈ known.map Prod.fst then known.map Prod.fst else known.map Prod.fst ++ [key] := by
  induction known with
  | nil => simp [setMember]
  | cons m rest ih =>
    obtain ⟨k, v⟩ := m
    by_cases hk : k = key
    · simp [setMember, hk]
    · have hk' : key ≠ k := Ne.symm hk
      simp only [setMember, if_neg hk, List.map_cons, ih, List.mem_cons, hk', false_or]
      split <;> simp

theorem mem_setMember {key : String} {value : Json} {known : List (String × Json)}
    {m : String × Json} (h : m ∈ setMember key value known) : m = (key, value) ∨ m ∈ known := by
  induction known with
  | nil => simpa [setMember] using h
  | cons m' rest ih =>
    obtain ⟨k, v⟩ := m'
    rw [setMember] at h
    split at h
    · next hk =>
      rw [List.mem_cons] at h
      rcases h with rfl | h
      · exact .inl (by rw [hk])
      · exact .inr (List.mem_cons_of_mem _ h)
    · rw [List.mem_cons] at h
      rcases h with rfl | h
      · exact .inr List.mem_cons_self
      · exact (ih h).imp_right (List.mem_cons_of_mem _)

theorem nodup_setMember {key : String} {value : Json} {known : List (String × Json)}
    (h : (known.map Prod.fst).Nodup) : ((setMember key value known).map Prod.fst).Nodup := by
  rw [keys_setMember]
  split
  · exact h
  · next hk =>
    rw [List.nodup_append]
    refine ⟨h, by simp, ?_⟩
    intro a ha b hb
    rw [List.mem_singleton] at hb
    subst hb
    exact fun hab => hk (hab ▸ ha)

/-- Members are set one after the other, each on those that are known by then. -/
theorem nodup_members_from {pairs known : List (String × Json)}
    (h : (known.map Prod.fst).Nodup) :
    ((pairs.foldl (fun known pair => setMember pair.1 pair.2 known) known).map
      Prod.fst).Nodup := by
  induction pairs generalizing known with
  | nil => exact h
  | cons pair rest ih => exact ih (nodup_setMember h)

theorem nodup_members (pairs : List (String × Json)) :
    ((members pairs).map Prod.fst).Nodup :=
  nodup_members_from List.nodup_nil

theorem mem_members_from {pairs known : List (String × Json)} {m : String × Json}
    (h : m ∈ pairs.foldl (fun known pair => setMember pair.1 pair.2 known) known) :
    m ∈ known ∨ m ∈ pairs := by
  induction pairs generalizing known with
  | nil => exact .inl h
  | cons pair rest ih =>
    rcases ih h with h | h
    · rcases mem_setMember h with rfl | h
      · exact .inr List.mem_cons_self
      · exact .inl h
    · exact .inr (List.mem_cons_of_mem _ h)

theorem mem_of_mem_members {pairs : List (String × Json)} {m : String × Json}
    (h : m ∈ members pairs) : m ∈ pairs := by
  rcases mem_members_from h with h | h
  · exact absurd h List.not_mem_nil
  · exact h

/-- Names that do not repeat are kept as they are. -/
theorem members_from_eq_append {pairs known : List (String × Json)}
    (h : ((known ++ pairs).map Prod.fst).Nodup) :
    pairs.foldl (fun known pair => setMember pair.1 pair.2 known) known = known ++ pairs := by
  induction pairs generalizing known with
  | nil => simp
  | cons pair rest ih =>
    -- a name that is not known yet goes to the end
    have hset : setMember pair.1 pair.2 known = known ++ [pair] := by
      have hk : pair.1 ∉ known.map Prod.fst := by
        intro hk
        rw [List.map_append, List.map_cons, List.nodup_append] at h
        exact h.2.2 _ hk _ List.mem_cons_self rfl
      clear h ih
      induction known with
      | nil => rfl
      | cons m known ih =>
        simp only [List.map_cons, List.mem_cons, not_or] at hk
        simp [setMember, Ne.symm hk.1, ih hk.2]
    rw [List.foldl_cons, hset, ih (by simpa using h), List.append_assoc]
    rfl

theorem members_of_nodup {pairs : List (String × Json)} (h : (pairs.map Prod.fst).Nodup) :
    members pairs = pairs :=
  members_from_eq_append (by simpa using h)

/-! ## Values -/

/-- What one more step of each reader may rely on: all that is read with less fuel fits. -/
structure ReadsFitting (fuel : Nat) : Prop where
  value {depth : Nat} {s rest : List Char} {v : Json} :
    readValue fuel depth s = .ok (v, rest) → Fits depth v
  elements {depth : Nat} {s rest : List Char} {vs : List Json} :
    readElements fuel depth s = .ok (vs, rest) → ∀ v ∈ vs, Fits depth v
  members {depth : Nat} {s rest : List Char} {ms : List (String × Json)} :
    readMembers fuel depth s = .ok (ms, rest) → ∀ m ∈ ms, Fits depth m.2

theorem readValue_fits_succ {fuel depth : Nat} {s rest : List Char} {v : Json}
    (ih : ReadsFitting fuel) (h : readValue (fuel + 1) depth s = .ok (v, rest)) :
    Fits depth v := by
  unfold readValue at h
  split at h
  · simp [stop] at h
  · obtain ⟨a, -, ha⟩ := map_ok h
    rw [← (Prod.mk.inj ha).1]
    exact .null
  · obtain ⟨a, -, ha⟩ := map_ok h
    rw [← (Prod.mk.inj ha).1]
    exact .bool
  · obtain ⟨a, -, ha⟩ := map_ok h
    rw [← (Prod.mk.inj ha).1]
    exact .bool
  · obtain ⟨a, hr, ha⟩ := map_ok h
    rw [← (Prod.mk.inj ha).1]
    exact .number (readDigits_inRange hr)
  · obtain ⟨a, -, ha⟩ := map_ok h
    rw [← (Prod.mk.inj ha).1]
    exact .text
  · -- an array
    cases depth with
    | zero => simp [stop] at h
    | succ depth =>
      simp only at h
      split at h
      · simp [stop] at h
      · simp only [Except.ok.injEq, Prod.mk.injEq] at h
        rw [← h.1]
        exact .array fun v hv => absurd hv List.not_mem_nil
      · obtain ⟨a, hr, ha⟩ := map_ok h
        rw [← (Prod.mk.inj ha).1]
        exact .array (ih.elements hr)
  · -- an object
    cases depth with
    | zero => simp [stop] at h
    | succ depth =>
      simp only at h
      split at h
      · simp [stop] at h
      · simp only [Except.ok.injEq, Prod.mk.injEq] at h
        rw [← h.1]
        exact .object List.nodup_nil fun m hm => absurd hm List.not_mem_nil
      · obtain ⟨a, hr, ha⟩ := map_ok h
        rw [← (Prod.mk.inj ha).1]
        -- names that repeat in the text are merged, so those of the object do not
        exact .object (nodup_members _) fun m hm => ih.members hr m (mem_of_mem_members hm)
      · simp [stop] at h
  · split at h
    · obtain ⟨a, hr, ha⟩ := map_ok h
      rw [← (Prod.mk.inj ha).1]
      exact .number (readDigits_inRange hr)
    · simp [stop] at h

theorem readElements_fits_succ {fuel depth : Nat} {s rest : List Char} {vs : List Json}
    (ih : ReadsFitting fuel) (h : readElements (fuel + 1) depth s = .ok (vs, rest)) :
    ∀ v ∈ vs, Fits depth v := by
  unfold readElements at h
  split at h
  · simp at h
  · next v s hv =>
    have first := ih.value hv
    split at h
    · simp [stop] at h
    · simp only [Except.ok.injEq, Prod.mk.injEq] at h
      rw [← h.1]
      simpa using first
    · split at h
      · simp [stop] at h
      · simp [stop] at h
      · obtain ⟨a, hr, ha⟩ := map_ok h
        rw [← (Prod.mk.inj ha).1]
        exact List.forall_mem_cons.2 ⟨first, ih.elements hr⟩
    · simp [stop] at h

theorem readMembers_fits_succ {fuel depth : Nat} {s rest : List Char}
    {ms : List (String × Json)} (ih : ReadsFitting fuel)
    (h : readMembers (fuel + 1) depth s = .ok (ms, rest)) : ∀ m ∈ ms, Fits depth m.2 := by
  unfold readMembers at h
  split at h
  · simp at h
  · next key s _ =>
    split at h
    · simp [stop] at h
    · split at h
      · simp at h
      · next v s hv =>
        have first := ih.value hv
        split at h
        · simp [stop] at h
        · simp only [Except.ok.injEq, Prod.mk.injEq] at h
          rw [← h.1]
          simpa using first
        · split at h
          · simp [stop] at h
          · obtain ⟨a, hr, ha⟩ := map_ok h
            rw [← (Prod.mk.inj ha).1]
            exact List.forall_mem_cons.2 ⟨first, ih.members hr⟩
          · simp [stop] at h
          · simp [stop] at h
        · simp [stop] at h
    · simp [stop] at h

theorem readsFitting (fuel : Nat) : ReadsFitting fuel := by
  induction fuel with
  | zero =>
    constructor <;> intro depth s rest _ h
    · simp [readValue, stop] at h
    · simp [readElements, stop] at h
    · simp [readMembers, stop] at h
  | succ fuel ih =>
    exact ⟨readValue_fits_succ ih, readElements_fits_succ ih, readMembers_fits_succ ih⟩

/-- What was read from a text has at most `depthLimit` levels, integers of 64 bits and no repeated
names. -/
theorem read_fits {text : String} {v : Json} (h : read text = .ok v) : Fits depthLimit v := by
  unfold read readWhole at h
  simp only at h
  split at h
  · simp at h
  · next p hp =>
    obtain ⟨w, rest⟩ := p
    unfold expectEnd at h
    simp only at h
    split at h
    · simp at h
    · next hend =>
      -- nothing but blanks may follow the value
      split at hend
      · simp only [Except.ok.injEq] at h hend
        rw [← h, ← hend]
        exact (readsFitting _).value hp
      · simp [stop] at hend

end ContractBindings.Json
