import ContractBindings.Json.Printer
import ContractBindings.Proofs.Json.Fits
import Mathlib

/-!
# Reading what was written

The pretty layout of a value without binary64 numbers reads back as that value, with its members in
the same order.

1. `readText_written`: a text keeps every character through its escapes.
2. `readDigits_written`: an integer keeps its value through its digits.
3. `readsBack`: a value, the elements of an array and the members of an object read back from any
   text that goes on as JSON does. It is one induction on the steps that the reader has left, which
   the length of the layout bounds; `Fits` bounds its depth.
4. `read_pretty`: the whole layout reads back.
-/

namespace ContractBindings.Json

/-- `v.Integral`: no number in the value, at any depth, is a binary64 number. -/
inductive Integral : Json → Prop
  | null : Integral .null
  | bool {b : Bool} : Integral (.bool b)
  | integer {n : Int} : Integral (.number (.integer n))
  | text {s : String} : Integral (.text s)
  | array {vs : List Json} : (∀ v ∈ vs, Integral v) → Integral (.array vs)
  | object {ms : List (String × Json)} : (∀ m ∈ ms, Integral m.2) → Integral (.object ms)

/-! ## Blanks -/

theorem skipSpaces_of_not_space {c : Char} {s : List Char} (h : isSpace c = false) :
    skipSpaces (c :: s) = c :: s := by
  simp [skipSpaces, h]

theorem skipSpaces_replicate (n : Nat) (s : List Char) :
    skipSpaces (List.replicate n ' ' ++ s) = skipSpaces s := by
  induction n with
  | zero => rfl
  | succ n ih =>
    rw [List.replicate_succ, List.cons_append, ← ih]
    rfl

theorem skipSpaces_newLine (level : Nat) (s : List Char) :
    skipSpaces (newLine level ++ s) = skipSpaces s :=
  skipSpaces_replicate (2 * level) s

/-! ## Text -/

theorem readTextFrom_escaped {done s rest : List Char} {c : Char}
    (h : readEscape s = .ok (c, rest)) :
    readTextFrom done ('\\' :: s) = readTextFrom (c :: done) rest := by
  rw [readTextFrom]
  split
  · next e he => rw [h] at he; simp at he
  · next c' rest' he =>
    rw [h] at he
    simp only [Except.ok.injEq, Prod.mk.injEq] at he
    rw [he.1, he.2]

theorem readTextFrom_plain {done rest : List Char} {c : Char} (hq : c ≠ '"') (hb : c ≠ '\\')
    (hc : ¬c.toNat < 0x20) : readTextFrom done (c :: rest) = readTextFrom (c :: done) rest := by
  rw [readTextFrom]
  · simp [hc]
  · exact hq
  · exact hb

theorem hexFour?_control : ∀ n < 0x20,
    hexFour? '0' '0' (Nat.digitChar (n / 16)) (Nat.digitChar (n % 16)) = some n := by
  decide

theorem readEscape_control {c : Char} {rest : List Char} (hc : c.toNat < 0x20) :
    readEscape (['u', '0', '0'] ++ hexPair c.toNat ++ rest) = .ok (c, rest) := by
  have hex := hexFour?_control c.toNat hc
  have low : isLowHalf c.toNat = false := by simp [isLowHalf]; omega
  have high : isHighHalf c.toNat = false := by simp [isHighHalf]; omega
  simp [hexPair, readEscape, readHex, hex, low, high, Char.ofNat_toNat]

/-- Each escape reads back as its character. -/
theorem readTextFrom_escape (c : Char) (done rest : List Char) :
    readTextFrom done (escape c ++ rest) = readTextFrom (c :: done) rest := by
  unfold escape
  split
  · exact readTextFrom_escaped rfl
  · exact readTextFrom_escaped rfl
  · exact readTextFrom_escaped rfl
  · exact readTextFrom_escaped rfl
  · exact readTextFrom_escaped rfl
  · exact readTextFrom_escaped rfl
  · exact readTextFrom_escaped rfl
  · next hq hb _ _ _ _ _ =>
    split
    · next hc => exact readTextFrom_escaped (readEscape_control hc)
    · next hc => exact readTextFrom_plain hq hb hc

theorem readTextFrom_escapes (cs done rest : List Char) :
    readTextFrom done (cs.flatMap escape ++ '"' :: rest) =
      .ok (String.ofList (done.reverse ++ cs), rest) := by
  induction cs generalizing done with
  | nil => simp [readTextFrom]
  | cons c cs ih =>
    rw [List.flatMap_cons, List.append_assoc, readTextFrom_escape, ih]
    simp

theorem readText_written (s : String) (rest : List Char) :
    readText (s.toList.flatMap escape ++ '"' :: rest) = .ok (s, rest) := by
  rw [readText, readTextFrom_escapes]
  simp

/-! ## Integers -/

/-- What follows an integer does not go on as a number would. -/
def EndsNumber (s : List Char) : Prop :=
  startsWithDigit s = false ∧ s.head? ≠ some '.' ∧ s.head? ≠ some 'e' ∧ s.head? ≠ some 'E'

theorem le_ofDigitChars (ds : List Char) (value : Nat) : value ≤ Nat.ofDigitChars 10 ds value := by
  induction ds generalizing value with
  | nil => simp
  | cons c ds ih =>
    rw [Nat.ofDigitChars_cons]
    exact Nat.le_trans (by omega) (ih _)

theorem gather_digits {limit value count : Nat} {ds rest : List Char}
    (hds : ∀ c ∈ ds, c.isDigit) (hlimit : Nat.ofDigitChars 10 ds value ≤ limit)
    (hrest : startsWithDigit rest = false) :
    gather limit value count (ds ++ rest) =
      (Nat.ofDigitChars 10 ds value, count + ds.length, rest) := by
  induction ds generalizing value count with
  | nil =>
    cases rest with
    | nil => rfl
    | cons c rest =>
      have hc : c.isDigit = false := hrest
      simp [gather, hc]
  | cons c ds ih =>
    rw [Nat.ofDigitChars_cons] at hlimit
    have step : value * 10 + (c.toNat - '0'.toNat) = 10 * value + (c.toNat - '0'.toNat) := by
      omega
    -- what is gathered so far is below the whole number, and so below the limit
    have within := Nat.le_trans (le_ofDigitChars ds _) hlimit
    have hc : c.isDigit := hds c List.mem_cons_self
    rw [List.cons_append, gather, step, if_pos ⟨hc, within⟩,
      ih (fun c hc => hds c (List.mem_cons_of_mem _ hc)) hlimit, Nat.ofDigitChars_cons,
      List.length_cons, Nat.add_assoc, Nat.add_comm 1]

theorem digitChar_ne_zero : ∀ n < 10, 0 < n → n.digitChar ≠ '0' := by
  decide

/-- Only zero is written with a leading zero. -/
theorem toDigits_head {n : Nat} (h : 0 < n) :
    ∃ c ds, Nat.toDigits 10 n = c :: ds ∧ c ≠ '0' := by
  induction n using Nat.strongRecOn with
  | _ n ih =>
    rcases Nat.lt_or_ge n 10 with hn | hn
    · exact ⟨n.digitChar, [], Nat.toDigits_of_lt_base hn, digitChar_ne_zero n hn h⟩
    · obtain ⟨c, ds, hcs, hc⟩ := ih (n / 10) (by omega) (by omega)
      refine ⟨c, ds ++ [(n % 10).digitChar], ?_, hc⟩
      rw [Nat.toDigits_of_base_le (by omega) hn, hcs]
      rfl

theorem readTail_of_endsNumber {negative : Bool} {n : Nat} {rest : List Char}
    (h : EndsNumber rest) : readTail negative n rest = .ok (plainNumber negative n, rest) := by
  obtain ⟨-, hpoint, he, hE⟩ := h
  unfold readTail
  split
  · simp at hpoint
  · simp at he
  · simp at hE
  · rfl

theorem readDigits_written {negative : Bool} {n : Nat} {rest : List Char}
    (hn : n ≤ greatestUnsigned) (h : EndsNumber rest) :
    readDigits negative (Nat.toDigits 10 n ++ rest) = .ok (plainNumber negative n, rest) := by
  rcases Nat.eq_zero_or_pos n with rfl | hpos
  · rw [Nat.toDigits_zero, List.singleton_append, readDigits, if_neg (by simp [h.1])]
    exact readTail_of_endsNumber h
  · obtain ⟨c, ds, hcs, hc⟩ := toDigits_head hpos
    have digits : ∀ d ∈ c :: ds, d.isDigit := by
      intro d hd
      rw [← hcs] at hd
      exact Nat.isDigit_of_mem_toDigits (by omega) (by omega) hd
    have value : Nat.ofDigitChars 10 ds (c.toNat - '0'.toNat) = n := by
      have := Nat.ofDigitChars_ten_toDigits (n := n)
      rw [hcs, Nat.ofDigitChars_cons] at this
      simpa using this
    have gathered : gather greatestUnsigned (c.toNat - '0'.toNat) 1 (ds ++ rest) =
        (n, 1 + ds.length, rest) := by
      rw [gather_digits (fun d hd => digits d (List.mem_cons_of_mem _ hd)) (by rwa [value]) h.1,
        value]
    rw [hcs, List.cons_append, readDigits]
    · simp only [digits c List.mem_cons_self, if_true, gathered, h.1, Bool.false_eq_true, if_false]
      exact readTail_of_endsNumber h
    · exact hc

/-! ## Values -/

theorem length_newLine (level : Nat) : (newLine level).length = 2 * level + 1 := by
  simp [newLine]

theorem not_digit_cases {c : Char} (hc : c.isDigit) :
    isSpace c = false ∧ c ≠ ']' ∧ c ≠ 'n' ∧ c ≠ 't' ∧ c ≠ 'f' ∧ c ≠ '-' ∧ c ≠ '"' ∧ c ≠ '[' ∧
      c ≠ '{' := by
  refine ⟨?_, ?_, ?_, ?_, ?_, ?_, ?_, ?_, ?_⟩
  · rw [Bool.eq_false_iff]
    intro hs
    simp only [isSpace, Bool.or_eq_true, beq_iff_eq] at hs
    rcases hs with ((rfl | rfl) | rfl) | rfl <;> exact absurd hc (by decide)
  all_goals
    rintro rfl
    exact absurd hc (by decide)

/-- The first character of an integer's digits. -/
theorem toDigits_cons (n : Nat) : ∃ c ds, Nat.toDigits 10 n = c :: ds ∧ c.isDigit := by
  cases h : Nat.toDigits 10 n with
  | nil => exact absurd h Nat.toDigits_ne_nil
  | cons c ds =>
    refine ⟨c, ds, rfl, Nat.isDigit_of_mem_toDigits (b := 10) (n := n) (by omega) (by omega) ?_⟩
    rw [h]
    exact List.mem_cons_self

/-- A value starts with neither a blank nor a closing bracket. -/
theorem prettyChars_cons (level : Nat) {v : Json} (h : v.Integral) :
    ∃ c s, v.prettyChars level = c :: s ∧ isSpace c = false ∧ c ≠ ']' := by
  cases h with
  | null => exact ⟨'n', _, rfl, rfl, by decide⟩
  | @bool b => cases b <;> exact ⟨_, _, rfl, rfl, by decide⟩
  | @integer n =>
    simp only [prettyChars, Number.written, writtenInteger]
    split
    · exact ⟨'-', _, rfl, rfl, by decide⟩
    · obtain ⟨c, ds, hcs, hc⟩ := toDigits_cons n.natAbs
      exact ⟨c, ds, hcs, (not_digit_cases hc).1, (not_digit_cases hc).2.1⟩
  | text => exact ⟨'"', _, rfl, rfl, by decide⟩
  | @array vs _ => cases vs <;> exact ⟨'[', _, rfl, rfl, by decide⟩
  | @object ms _ =>
    match ms with
    | [] => exact ⟨'{', _, rfl, rfl, by decide⟩
    | (_, _) :: _ => exact ⟨'{', _, rfl, rfl, by decide⟩

theorem endsNumber_prettyElements (level : Nat) (vs : List Json) (rest : List Char) :
    EndsNumber (prettyElements level vs ++ rest) := by
  cases vs <;> simp [prettyElements, newLine, EndsNumber, startsWithDigit]

theorem endsNumber_prettyMembers (level : Nat) (ms : List (String × Json)) (rest : List Char) :
    EndsNumber (prettyMembers level ms ++ rest) := by
  match ms with
  | [] => simp [prettyMembers, newLine, EndsNumber, startsWithDigit]
  | (_, _) :: _ => simp [prettyMembers, EndsNumber, startsWithDigit]

theorem readValue_digit {fuel depth : Nat} {c : Char} {s : List Char} (hc : c.isDigit) :
    readValue (fuel + 1) depth (c :: s) =
      (readDigits false (c :: s)).map fun p => (.number p.1, p.2) := by
  obtain ⟨hs, -, hn, ht, hf, hm, hq, ha, ho⟩ := not_digit_cases hc
  unfold readValue
  rw [skipSpaces_of_not_space hs]
  split <;> simp_all

theorem readValue_integer {fuel depth : Nat} {n : Int} {rest : List Char}
    (hn : (Number.integer n).InRange) (h : EndsNumber rest) :
    readValue (fuel + 1) depth (writtenInteger n ++ rest) =
      .ok (.number (.integer n), rest) := by
  simp only [Number.InRange] at hn
  have small : n.natAbs ≤ greatestUnsigned := by unfold greatestUnsigned; omega
  unfold writtenInteger
  split
  · next hneg =>
    -- a minus sign comes before the digits
    have plain : plainNumber true n.natAbs = .integer n := by
      rw [plainNumber, if_pos rfl, if_pos (by omega)]
      congr 1
      omega
    rw [List.cons_append, readValue, skipSpaces_of_not_space rfl]
    simp only [readDigits_written small h, Except.map, plain]
  · next hpos =>
    have plain : plainNumber false n.natAbs = .integer n := by
      simp only [plainNumber, Bool.false_eq_true, if_false]
      congr 1
      omega
    obtain ⟨c, ds, hcs, hc⟩ := toDigits_cons n.natAbs
    rw [hcs, List.cons_append, readValue_digit hc, ← List.cons_append, ← hcs,
      readDigits_written small h, plain]
    rfl

theorem readValue_space {fuel depth : Nat} (s : List Char) :
    readValue (fuel + 1) depth (' ' :: s) = readValue (fuel + 1) depth s := by
  rw [readValue, readValue]
  rfl

/-- The first element is read where the blanks before it end. -/
theorem readValue_array {fuel depth level : Nat} {v : Json} {s : List Char} (h : v.Integral) :
    readValue (fuel + 1) (depth + 1)
        ('[' :: newLine (level + 1) ++ prettyChars (level + 1) v ++ s) =
      (readElements fuel depth (prettyChars (level + 1) v ++ s)).map
        fun p => (.array p.1, p.2) := by
  obtain ⟨c, cs, hcs, hc, hclose⟩ := prettyChars_cons (level + 1) h
  rw [hcs, readValue, List.cons_append, List.cons_append, skipSpaces_of_not_space rfl,
    List.append_assoc]
  simp only [skipSpaces_newLine, List.cons_append, skipSpaces_of_not_space hc]
  split
  · next h => simp at h
  · next h => exact absurd (List.cons.inj h).1 hclose
  · rfl

/-- The comma and the line end between two elements count for nothing. -/
theorem readElements_comma {fuel depth level : Nat} {v w : Json} {s s' : List Char}
    (h : w.Integral)
    (hv : readValue fuel depth s' =
      .ok (v, ',' :: newLine (level + 1) ++ prettyChars (level + 1) w ++ s)) :
    readElements (fuel + 1) depth s' =
      (readElements fuel depth (prettyChars (level + 1) w ++ s)).map fun p => (v :: p.1, p.2) := by
  obtain ⟨c, cs, hcs, hc, hclose⟩ := prettyChars_cons (level + 1) h
  rw [readElements, hv, hcs]
  simp only [List.cons_append, List.append_assoc, skipSpaces_of_not_space (c := ',') rfl,
    skipSpaces_newLine, skipSpaces_of_not_space hc]
  split
  · next h => simp at h
  · next h => exact absurd (List.cons.inj h).1 hclose
  · rfl

theorem readElements_last {fuel depth level : Nat} {v : Json} {rest s : List Char}
    (hv : readValue fuel depth s = .ok (v, newLine level ++ [']'] ++ rest)) :
    readElements (fuel + 1) depth s = .ok ([v], rest) := by
  rw [readElements, hv]
  simp only [List.append_assoc, skipSpaces_newLine, List.singleton_append,
    skipSpaces_of_not_space (c := ']') rfl]

theorem readValue_object {fuel depth level : Nat} {k : String} {s : List Char} :
    readValue (fuel + 1) (depth + 1) ('{' :: newLine (level + 1) ++ writtenText k ++ s) =
      (readMembers fuel depth (k.toList.flatMap escape ++ '"' :: s)).map
        fun p => (.object (members p.1), p.2) := by
  rw [readValue, List.cons_append, List.cons_append, skipSpaces_of_not_space rfl,
    List.append_assoc]
  simp only [skipSpaces_newLine, writtenText, List.cons_append, List.append_assoc,
    skipSpaces_of_not_space (c := '"') rfl]
  rfl

theorem readMembers_comma {fuel depth level : Nat} {k k' : String} {v : Json}
    {s s' : List Char}
    (hv : readValue fuel depth s' =
      .ok (v, ',' :: newLine (level + 1) ++ writtenText k' ++ s)) :
    readMembers (fuel + 1) depth (k.toList.flatMap escape ++ '"' :: ':' :: s') =
      (readMembers fuel depth (k'.toList.flatMap escape ++ '"' :: s)).map
        fun p => ((k, v) :: p.1, p.2) := by
  rw [readMembers, readText_written]
  simp only [List.cons_append, List.append_assoc, skipSpaces_of_not_space (c := ':') rfl, hv,
    skipSpaces_of_not_space (c := ',') rfl, skipSpaces_newLine, writtenText,
    skipSpaces_of_not_space (c := '"') rfl]
  rfl

theorem readMembers_last {fuel depth level : Nat} {k : String} {v : Json} {rest s : List Char}
    (hv : readValue fuel depth s = .ok (v, newLine level ++ ['}'] ++ rest)) :
    readMembers (fuel + 1) depth (k.toList.flatMap escape ++ '"' :: ':' :: s) =
      .ok ([(k, v)], rest) := by
  rw [readMembers, readText_written]
  simp only [skipSpaces_of_not_space (c := ':') rfl, hv, List.append_assoc, skipSpaces_newLine,
    List.singleton_append, skipSpaces_of_not_space (c := '}') rfl]

/-- What one more step of each reader may rely on: with less fuel, every layout of no more
characters than that reads back, whatever follows it. -/
structure ReadsBack (fuel : Nat) : Prop where
  value {v : Json} {depth level : Nat} {rest : List Char} :
    Fits depth v → v.Integral → EndsNumber rest → (prettyChars level v).length ≤ fuel →
    readValue fuel depth (prettyChars level v ++ rest) = .ok (v, rest)
  elements {v : Json} {vs : List Json} {depth level : Nat} {rest : List Char} :
    (∀ w ∈ v :: vs, Fits depth w) → (∀ w ∈ v :: vs, w.Integral) →
    (prettyChars (level + 1) v ++ prettyElements level vs).length ≤ fuel →
    readElements fuel depth (prettyChars (level + 1) v ++ (prettyElements level vs ++ rest)) =
      .ok (v :: vs, rest)
  members {k : String} {v : Json} {ms : List (String × Json)} {depth level : Nat}
    {rest : List Char} :
    (∀ m ∈ (k, v) :: ms, Fits depth m.2) → (∀ m ∈ (k, v) :: ms, m.2.Integral) →
    (writtenText k ++ prettyChars (level + 1) v ++ prettyMembers level ms).length ≤ fuel →
    readMembers fuel depth (k.toList.flatMap escape ++ '"' :: ':' :: ' ' ::
        (prettyChars (level + 1) v ++ (prettyMembers level ms ++ rest))) =
      .ok ((k, v) :: ms, rest)

theorem readValue_back_succ {fuel depth level : Nat} {v : Json} {rest : List Char}
    (ih : ReadsBack fuel) (hfit : Fits depth v) (hi : v.Integral) (hrest : EndsNumber rest)
    (hf : (prettyChars level v).length ≤ fuel + 1) :
    readValue (fuel + 1) depth (prettyChars level v ++ rest) = .ok (v, rest) := by
  cases hi with
  | null =>
    rw [readValue]
    rfl
  | @bool b =>
    cases b <;>
    · rw [readValue]
      rfl
  | integer =>
    cases hfit with
    | number hn => exact readValue_integer hn hrest
  | @text s =>
    rw [prettyChars, writtenText, List.cons_append, List.cons_append, List.append_assoc, readValue,
      skipSpaces_of_not_space rfl]
    simp only [List.singleton_append, readText_written, Except.map]
  | @array vs his =>
    cases hfit with
    | array hfits =>
      cases vs with
      | nil =>
        rw [readValue]
        rfl
      | cons v vs =>
        have within : (prettyChars (level + 1) v ++ prettyElements level vs).length ≤ fuel := by
          simp only [prettyChars, List.length_append, List.length_cons, length_newLine] at hf ⊢
          omega
        rw [prettyChars, List.append_assoc, readValue_array (his v List.mem_cons_self),
          ih.elements hfits his within]
        rfl
  | @object ms his =>
    cases hfit with
    | object hkeys hfits =>
      cases ms with
      | nil =>
        rw [readValue]
        rfl
      | cons m ms =>
        obtain ⟨k, v⟩ := m
        have within :
            (writtenText k ++ prettyChars (level + 1) v ++ prettyMembers level ms).length ≤
              fuel := by
          simp only [prettyChars, List.length_append, List.length_cons, length_newLine] at hf ⊢
          omega
        rw [prettyChars, List.append_assoc, List.append_assoc, List.append_assoc,
          readValue_object]
        simp only [List.cons_append, List.nil_append]
        rw [ih.members hfits his within]
        -- the members keep their places, since no name repeats
        simp only [Except.map, members_of_nodup hkeys]

theorem readElements_back_succ {fuel depth level : Nat} {v : Json} {vs : List Json}
    {rest : List Char} (ih : ReadsBack fuel) (hfit : ∀ w ∈ v :: vs, Fits depth w)
    (hi : ∀ w ∈ v :: vs, w.Integral)
    (hf : (prettyChars (level + 1) v ++ prettyElements level vs).length ≤ fuel + 1) :
    readElements (fuel + 1) depth (prettyChars (level + 1) v ++ (prettyElements level vs ++ rest)) =
      .ok (v :: vs, rest) := by
  -- fuel is counted in characters, and the bracket or comma after the first element is one
  have shorter : 0 < (prettyElements level vs).length := by
    cases vs <;> simp [prettyElements]
  rw [List.length_append] at hf
  have first : readValue fuel depth
      (prettyChars (level + 1) v ++ (prettyElements level vs ++ rest)) =
        .ok (v, prettyElements level vs ++ rest) :=
    ih.value (hfit v List.mem_cons_self) (hi v List.mem_cons_self)
      (endsNumber_prettyElements level vs rest) (by omega)
  cases vs with
  | nil => exact readElements_last first
  | cons w ws =>
    rw [List.forall_mem_cons] at hfit hi
    have within : (prettyChars (level + 1) w ++ prettyElements level ws).length ≤ fuel := by
      simp only [prettyElements, List.length_append, List.length_cons, length_newLine] at hf ⊢
      omega
    rw [prettyElements, List.append_assoc] at first ⊢
    rw [readElements_comma (hi.2 w List.mem_cons_self) first, ih.elements hfit.2 hi.2 within]
    rfl

theorem readMembers_back_succ {fuel depth level : Nat} {k : String} {v : Json}
    {ms : List (String × Json)} {rest : List Char} (ih : ReadsBack fuel)
    (hfit : ∀ m ∈ (k, v) :: ms, Fits depth m.2) (hi : ∀ m ∈ (k, v) :: ms, m.2.Integral)
    (hf : (writtenText k ++ prettyChars (level + 1) v ++ prettyMembers level ms).length ≤
      fuel + 1) :
    readMembers (fuel + 1) depth (k.toList.flatMap escape ++ '"' :: ':' :: ' ' ::
        (prettyChars (level + 1) v ++ (prettyMembers level ms ++ rest))) =
      .ok ((k, v) :: ms, rest) := by
  have quoted : 2 ≤ (writtenText k).length := by simp [writtenText]
  rw [List.length_append, List.length_append] at hf
  have first : readValue fuel depth
      (' ' :: (prettyChars (level + 1) v ++ (prettyMembers level ms ++ rest))) =
        .ok (v, prettyMembers level ms ++ rest) := by
    -- the blank after the colon is skipped by the reader of the value
    obtain ⟨fuel, rfl⟩ : ∃ n, fuel = n + 1 := Nat.exists_eq_succ_of_ne_zero (by omega)
    rw [readValue_space]
    exact ih.value (hfit _ List.mem_cons_self) (hi _ List.mem_cons_self)
      (endsNumber_prettyMembers level ms rest) (by omega)
  match ms with
  | [] => exact readMembers_last first
  | (k', w) :: ms =>
    rw [List.forall_mem_cons] at hfit hi
    have within :
        (writtenText k' ++ prettyChars (level + 1) w ++ prettyMembers level ms).length ≤ fuel := by
      simp only [prettyMembers, List.length_append, List.length_cons, length_newLine] at hf ⊢
      omega
    rw [prettyMembers, List.append_assoc, List.append_assoc, List.append_assoc] at first ⊢
    rw [readMembers_comma first]
    simp only [List.cons_append, List.nil_append]
    rw [ih.members hfit.2 hi.2 within]
    rfl

theorem readsBack (fuel : Nat) : ReadsBack fuel := by
  induction fuel with
  | zero =>
    constructor
    · intro v depth level rest _ hi _ hf
      obtain ⟨c, cs, hcs, -⟩ := prettyChars_cons level hi
      simp [hcs] at hf
    · intro v vs depth level rest _ hi hf
      obtain ⟨c, cs, hcs, -⟩ := prettyChars_cons (level + 1) (hi v List.mem_cons_self)
      simp [hcs] at hf
    · intro k v ms depth level rest _ _ hf
      simp [writtenText] at hf
  | succ fuel ih =>
    exact ⟨readValue_back_succ ih, readElements_back_succ ih, readMembers_back_succ ih⟩

/-- The pretty layout of a value that was read, and that has no binary64 number, reads back. -/
theorem read_pretty {v : Json} (hfit : Fits depthLimit v) (hi : v.Integral) :
    read v.pretty = .ok v := by
  have back : readValue (enoughFuel (v.prettyChars 0)) depthLimit (prettyChars 0 v ++ []) =
      .ok (v, []) :=
    (readsBack _).value hfit hi ⟨rfl, by simp, by simp, by simp⟩ (by unfold enoughFuel; omega)
  rw [List.append_nil] at back
  simp only [read, readWhole, pretty, String.toList_ofList, back]
  rfl

end ContractBindings.Json
