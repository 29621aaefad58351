import ContractBindings.Proofs.Naming.ScreamingSnake

/-!
# Words of constants

A text in screaming snake case consists of the characters of the text it was made from, in upper
case, with one underscore wherever a word ends and another one starts.

1. `snakeAfter_cons`: what one character adds, and `snakeAfter_gap`, what it adds behind separators.
2. `kept_snake`: without its underscores, a constant has the characters of its text.
3. `tidy_snake`, `head?_snake_ne`: underscores stand between words alone, and one at a time.
4. `snake_neighbours`: what stands between two neighbours.
5. `screamingSnake_words`: all that a text in screaming snake case is.
-/

namespace ContractBindings.Naming

/-! ## What a constant keeps -/

/-- What is left of a text that loses its separators and changes to upper case. -/
def keptChars (chars : List Char) : List Char :=
  (chars.filter fun c => !isSeparator c).map Char.toUpper

/-- The characters of a constant but for its underscores. -/
def unmarked (constant : List Char) : List Char :=
  constant.filter (· ≠ '_')

/-- A word ends at `x` and the next one starts at `y`: separators stand between them, or else their
case and the character behind them, `after`, say so. -/
def WordBreak (x : Char) (gap : List Char) (y : Char) (after : Option Char) : Prop :=
  gap ≠ [] ∨
    (y.isUpper = true ∧ (x.isLower = true ∨ x.isDigit = true ∨
      (x.isUpper = true ∧ ∃ z ∈ after, z.isLower = true)))

variable {x y c before : Char} {gap pre post rest chars constant : List Char} {parted : Bool}

theorem startsWord_iff {after : Option Char} :
    startsWord x y after = true ↔ WordBreak x [] y after := by
  cases after <;> simp [startsWord, WordBreak, or_assoc]

theorem toUpper_ne_mark (h : isSeparator c = false) : c.toUpper ≠ '_' := by
  intro heq
  have hmark : isSeparator c.toUpper = true := by rw [heq]; rfl
  rw [isSeparator_toUpper, h] at hmark
  exact Bool.noConfusion hmark

theorem keptChars_cons_separator (h : isSeparator c = true) :
    keptChars (c :: chars) = keptChars chars := by
  simp [keptChars, h]

theorem keptChars_cons (h : isSeparator c = false) :
    keptChars (c :: chars) = c.toUpper :: keptChars chars := by
  simp [keptChars, h]

theorem unmarked_cons (h : c ≠ '_') :
    unmarked (c :: constant) = c :: unmarked constant := by
  simp [unmarked, h]

theorem unmarked_append (constant constant' : List Char) :
    unmarked (constant ++ constant') = unmarked constant ++ unmarked constant' :=
  List.filter_append ..

/-! ## One character more -/

theorem snakeAfter_separator (h : isSeparator c = true) :
    snakeAfter before parted (c :: rest) = snakeAfter before true rest := by
  rw [snakeAfter, if_pos h]

/-- A character that is no separator is written in upper case, after an underscore or none. -/
theorem snakeAfter_cons (h : isSeparator c = false) :
    snakeAfter before parted (c :: rest) =
      (if parted || startsWord before c rest.head? then ['_'] else []) ++
        c.toUpper :: snakeAfter c false rest := by
  rw [snakeAfter, if_neg (by simp [h])]
  split <;> rfl

theorem exists_mark (before : Char) (parted : Bool) (rest : List Char)
    (h : isSeparator c = false) :
    ∃ mark, snakeAfter before parted (c :: rest) = mark ++ c.toUpper :: snakeAfter c false rest ∧
      unmarked mark = [] := by
  refine ⟨_, snakeAfter_cons h, ?_⟩
  split <;> rfl

/-- Behind separators the underscore is certain. -/
theorem snakeAfter_gap (hgap : ∀ c ∈ gap, isSeparator c = true) (hy : isSeparator y = false) :
    snakeAfter x parted (gap ++ y :: post) =
      (if parted || !gap.isEmpty || startsWord x y post.head? then ['_'] else []) ++
        y.toUpper :: snakeAfter y false post := by
  induction gap generalizing parted with
  | nil => rw [List.nil_append, snakeAfter_cons hy, List.isEmpty_nil, Bool.not_true, Bool.or_false]
  | cons c gap ih =>
    rw [List.forall_mem_cons] at hgap
    rw [List.cons_append, snakeAfter_separator hgap.1, ih hgap.2]
    simp

theorem snake_separator (h : isSeparator c = true) : snake (c :: rest) = snake rest := by
  rw [snake, snake, List.dropWhile_cons_of_pos h]

theorem snake_cons (h : isSeparator c = false) :
    snake (c :: rest) = c.toUpper :: snakeAfter c false rest := by
  rw [snake, List.dropWhile_cons_of_neg (by simp [h])]

/-! ## The characters of a constant -/

theorem kept_snakeAfter (before : Char) (parted : Bool) (chars : List Char) :
    unmarked (snakeAfter before parted chars) = keptChars chars := by
  induction chars generalizing before parted with
  | nil => rfl
  | cons c rest ih =>
    cases hc : isSeparator c with
    | true => rw [snakeAfter_separator hc, keptChars_cons_separator hc, ih]
    | false =>
      obtain ⟨mark, hcons, hmark⟩ := exists_mark before parted rest hc
      rw [hcons, unmarked_append, hmark, List.nil_append, unmarked_cons (toUpper_ne_mark hc), ih,
        keptChars_cons hc]

/-- Without its underscores a constant has the characters of its text, in their order. -/
theorem kept_snake (chars : List Char) : unmarked (snake chars) = keptChars chars := by
  induction chars with
  | nil => rfl
  | cons c rest ih =>
    cases hc : isSeparator c with
    | true => rw [snake_separator hc, keptChars_cons_separator hc, ih]
    | false =>
      rw [snake_cons hc, unmarked_cons (toUpper_ne_mark hc), kept_snakeAfter, keptChars_cons hc]

theorem not_isLower_of_mem_snake (h : c ∈ snake chars) : c.isLower = false := by
  rcases mem_snake h with rfl | ⟨d, -, -, rfl⟩
  · rfl
  · exact Char.isLower_toUpper_eq_false d

theorem eq_mark_of_mem_snake (h : c ∈ snake chars) (hc : isSeparator c = true) : c = '_' := by
  rcases mem_snake h with rfl | ⟨d, -, hd, rfl⟩
  · rfl
  · rw [isSeparator_toUpper, hd] at hc
    exact Bool.noConfusion hc

/-! ## The underscores of a constant -/

/-- No underscore stands next to another one, or at the end. -/
structure Tidy (constant : List Char) : Prop where
  last : constant.getLast? ≠ some '_'
  single : ¬['_', '_'] <:+: constant

theorem tidy_nil : Tidy [] where
  last := by simp
  single := by simp

theorem Tidy.cons (h : Tidy constant) (hc : c ≠ '_') : Tidy (c :: constant) where
  last := by
    rw [List.getLast?_cons]
    cases hlast : constant.getLast? with
    | none => simpa using hc
    | some d => simpa [hlast] using h.last
  single := by
    rw [List.infix_cons_iff]
    rintro (hhead | htail)
    · exact hc (List.cons_prefix_cons.1 hhead).1.symm
    · exact h.single htail

/-- An underscore may stand before any other character. -/
theorem Tidy.mark (h : Tidy (c :: constant)) (hc : c ≠ '_') : Tidy ('_' :: c :: constant) where
  last := by
    rw [List.getLast?_cons_cons]
    exact h.last
  single := by
    rw [List.infix_cons_iff]
    rintro (hhead | htail)
    · exact hc (List.cons_prefix_cons.1 (List.cons_prefix_cons.1 hhead).2).1.symm
    · exact h.single htail

theorem tidy_snakeAfter (before : Char) (parted : Bool) (chars : List Char) :
    Tidy (snakeAfter before parted chars) := by
  induction chars generalizing before parted with
  | nil => exact tidy_nil
  | cons c rest ih =>
    cases hc : isSeparator c with
    | true =>
      rw [snakeAfter_separator hc]
      exact ih before true
    | false =>
      have hne : c.toUpper ≠ '_' := toUpper_ne_mark hc
      have hword : Tidy (c.toUpper :: snakeAfter c false rest) := (ih c false).cons hne
      rw [snakeAfter_cons hc]
      split
      · exact hword.mark hne
      · exact hword

theorem tidy_snake (chars : List Char) : Tidy (snake chars) := by
  induction chars with
  | nil => exact tidy_nil
  | cons c rest ih =>
    cases hc : isSeparator c with
    | true =>
      rw [snake_separator hc]
      exact ih
    | false =>
      rw [snake_cons hc]
      exact (tidy_snakeAfter c false rest).cons (toUpper_ne_mark hc)

/-- No underscore stands at the start, either. -/
theorem head?_snake_ne (chars : List Char) : (snake chars).head? ≠ some '_' := by
  intro h
  rw [head?_snake, Option.map_eq_some_iff] at h
  obtain ⟨c, hc, hmark⟩ := h
  have hkept := List.head?_dropWhile_not isSeparator chars
  rw [hc] at hkept
  exact toUpper_ne_mark hkept hmark

/-! ## Neighbours -/

theorem exists_snakeAfter_append (before : Char) (parted : Bool) (hx : isSeparator x = false)
    (pre rest : List Char) :
    ∃ start, snakeAfter before parted (pre ++ x :: rest) =
        start ++ x.toUpper :: snakeAfter x false rest ∧ unmarked start = keptChars pre := by
  induction pre generalizing before parted with
  | nil => exact exists_mark before parted rest hx
  | cons c pre ih =>
    cases hc : isSeparator c with
    | true =>
      obtain ⟨start, hstart, hkept⟩ := ih before true
      refine ⟨start, ?_, ?_⟩
      · rw [List.cons_append, snakeAfter_separator hc, hstart]
      · rw [hkept, keptChars_cons_separator hc]
    | false =>
      obtain ⟨start, hstart, hkept⟩ := ih c false
      obtain ⟨mark, hcons, hmark⟩ := exists_mark before parted (pre ++ x :: rest) hc
      refine ⟨mark ++ c.toUpper :: start, ?_, ?_⟩
      · rw [List.cons_append, hcons, hstart, List.append_assoc, List.cons_append]
      · rw [unmarked_append, hmark, List.nil_append, unmarked_cons (toUpper_ne_mark hc), hkept,
          keptChars_cons hc]

/-- What comes before a character in a constant has the characters that come before it in the
text, and what comes behind it is told from what comes behind it there. -/
theorem exists_snake_append (hx : isSeparator x = false) (pre rest : List Char) :
    ∃ start, snake (pre ++ x :: rest) = start ++ x.toUpper :: snakeAfter x false rest ∧
      unmarked start = keptChars pre := by
  induction pre with
  | nil => exact ⟨[], snake_cons hx, rfl⟩
  | cons c pre ih =>
    cases hc : isSeparator c with
    | true =>
      obtain ⟨start, hstart, hkept⟩ := ih
      refine ⟨start, ?_, ?_⟩
      · rw [List.cons_append, snake_separator hc, hstart]
      · rw [hkept, keptChars_cons_separator hc]
    | false =>
      obtain ⟨start, hstart, hkept⟩ := exists_snakeAfter_append c false hx pre rest
      refine ⟨c.toUpper :: start, ?_, ?_⟩
      · rw [List.cons_append, snake_cons hc, hstart, List.cons_append]
      · rw [unmarked_cons (toUpper_ne_mark hc), hkept, keptChars_cons hc]

/-- Between two neighbours stands an underscore where a word ends, and nothing elsewhere. -/
theorem snake_neighbours (hx : isSeparator x = false) (hy : isSeparator y = false)
    (hgap : ∀ c ∈ gap, isSeparator c = true) :
    ∃ start between stop,
      snake (pre ++ x :: (gap ++ y :: post)) =
        start ++ x.toUpper :: (between ++ y.toUpper :: stop) ∧
      unmarked start = keptChars pre ∧ unmarked stop = keptChars post ∧
      ((between = ['_'] ∧ WordBreak x gap y post.head?) ∨
        (between = [] ∧ ¬WordBreak x gap y post.head?)) := by
  obtain ⟨start, hstart, hkept⟩ := exists_snake_append hx pre (gap ++ y :: post)
  have hbreak : (!gap.isEmpty || startsWord x y post.head?) = true ↔
      WordBreak x gap y post.head? := by
    cases gap with
    | nil => exact startsWord_iff
    | cons c gap => simp [WordBreak]
  rw [snakeAfter_gap hgap hy, Bool.false_or] at hstart
  refine ⟨start, _, _, hstart, hkept, kept_snakeAfter y false post, ?_⟩
  split
  · next h => exact .inl ⟨rfl, hbreak.1 h⟩
  · next h => exact .inr ⟨rfl, fun hword => h (hbreak.2 hword)⟩

/-- A text in screaming snake case has no lower-case letter and no separator but underscores, which
stand neither at its ends nor next to each other. Without them it is the text that it was made
from, without separators and in upper case. An underscore stands between two characters that are
neighbours there, but for separators, just where a word ends. -/
theorem screamingSnake_words (s : String) :
    (∀ c ∈ (screamingSnake s).toList, c.isLower = false ∧ c ∉ ['-', '.', ' ']) ∧
      (screamingSnake s).toList.head? ≠ some '_' ∧ (screamingSnake s).toList.getLast? ≠ some '_' ∧
      ¬['_', '_'] <:+: (screamingSnake s).toList ∧
      unmarked (screamingSnake s).toList = keptChars s.toList ∧
      ∀ pre x gap y post, s.toList = pre ++ x :: (gap ++ y :: post) →
        isSeparator x = false → isSeparator y = false → (∀ c ∈ gap, isSeparator c = true) →
        ∃ start between stop,
          (screamingSnake s).toList = start ++ x.toUpper :: (between ++ y.toUpper :: stop) ∧
          unmarked start = keptChars pre ∧ unmarked stop = keptChars post ∧
          ((between = ['_'] ∧ WordBreak x gap y post.head?) ∨
            (between = [] ∧ ¬WordBreak x gap y post.head?)) := by
  have hconstant : (screamingSnake s).toList = snake s.toList := String.toList_ofList
  rw [hconstant]
  have htidy := tidy_snake s.toList
  refine ⟨?_, head?_snake_ne _, htidy.last, htidy.single, kept_snake _, ?_⟩
  · intro c hc
    refine ⟨not_isLower_of_mem_snake hc, fun hmem => ?_⟩
    simp only [List.mem_cons, List.not_mem_nil, or_false] at hmem
    rcases hmem with rfl | rfl | rfl
    · exact absurd (eq_mark_of_mem_snake hc rfl) (by decide)
    · exact absurd (eq_mark_of_mem_snake hc rfl) (by decide)
    · exact absurd (eq_mark_of_mem_snake hc rfl) (by decide)
  · intro pre x gap y post hs hx hy hgap
    rw [hs]
    exact snake_neighbours hx hy hgap

/-- The last of several capitals starts a word if it goes on in lower case; a digit never starts
one. -/
example : screamingSnake "_HTTPServer--v2.1Beta " = "HTTP_SERVER_V2_1_BETA" := by
  decide

end ContractBindings.Naming
