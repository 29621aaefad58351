import ContractBindings.Text.Blank
import Mathlib.Data.List.Basic

/-!
# Words of a text

A text is cut into words at its blanks: its words are its longest runs of other characters.

1. `Runs`: which lists of words a text consists of.
2. `wordsFrom_blanks`, `wordsFrom_word`, `wordsFrom_end`: what reading words does with each part.
3. `runs_iff`: a text consists of the words that are read from it, and of no others.
4. `wordsFrom_intercalate`: words with a space between each two are read as they are.
-/

namespace ContractBindings.Text

/-- A text consists of words: nothing blank stands in a word, and nothing but blanks outside. Behind
a word the text ends or a blank follows, so that no run is cut short. -/
inductive Runs : List Char → List (List Char) → Prop
  | none {gap : List Char} : (∀ c ∈ gap, isBlank c = true) → Runs gap []
  | next {gap word rest : List Char} {words : List (List Char)} :
      (∀ c ∈ gap, isBlank c = true) → word ≠ [] → (∀ c ∈ word, isBlank c = false) →
      (∀ c ∈ rest.head?, isBlank c = true) → Runs rest words →
      Runs (gap ++ (word ++ rest)) (word :: words)

variable {c : Char} {gap word read rest cs : List Char} {words : List (List Char)}

/-! ## Reading words -/

theorem wordsFrom_blanks (h : ∀ c ∈ gap, isBlank c = true) (rest : List Char) :
    wordsFrom [] (gap ++ rest) = wordsFrom [] rest := by
  induction gap with
  | nil => rfl
  | cons c gap ih =>
    rw [List.forall_mem_cons] at h
    rw [List.cons_append, wordsFrom, if_pos h.1, List.isEmpty_nil, if_pos rfl, ih h.2]

theorem wordsFrom_word (h : ∀ c ∈ word, isBlank c = false) (read rest : List Char) :
    wordsFrom read (word ++ rest) = wordsFrom (word.reverse ++ read) rest := by
  induction word generalizing read with
  | nil => rfl
  | cons c word ih =>
    rw [List.forall_mem_cons] at h
    rw [List.cons_append, wordsFrom, if_neg (by simp [h.1]), ih h.2, List.reverse_cons,
      List.append_assoc, List.singleton_append]

/-- A word ends where the text ends or a blank follows. -/
theorem wordsFrom_end (hread : read ≠ []) (h : ∀ c ∈ rest.head?, isBlank c = true) :
    wordsFrom read rest = read.reverse :: wordsFrom [] rest := by
  have hempty : ¬read.isEmpty = true := by simpa using hread
  cases rest with
  | nil => rw [wordsFrom, if_neg hempty, wordsFrom, List.isEmpty_nil, if_pos rfl]
  | cons c rest =>
    have hc : isBlank c = true := h c rfl
    rw [wordsFrom, if_pos hc, if_neg hempty, wordsFrom, if_pos hc, List.isEmpty_nil, if_pos rfl]

/-- A whole word is read as it is. -/
theorem wordsFrom_word_end (hword : word ≠ []) (h : ∀ c ∈ word, isBlank c = false)
    (hrest : ∀ c ∈ rest.head?, isBlank c = true) :
    wordsFrom [] (word ++ rest) = word :: wordsFrom [] rest := by
  rw [wordsFrom_word h, List.append_nil, wordsFrom_end (by simpa using hword) hrest,
    List.reverse_reverse]

/-! ## Texts and their words -/

theorem wordsFrom_of_runs (h : Runs cs words) : wordsFrom [] cs = words := by
  induction h with
  | none hgap =>
    have hnothing := wordsFrom_blanks hgap []
    rw [List.append_nil] at hnothing
    exact hnothing
  | next hgap hne hword hrest _ ih =>
    rw [wordsFrom_blanks hgap, wordsFrom_word_end hne hword hrest, ih]

theorem Runs.blank (h : Runs cs words) (hc : isBlank c = true) : Runs (c :: cs) words := by
  cases h with
  | none hgap => exact .none (List.forall_mem_cons.2 ⟨hc, hgap⟩)
  | @next gap word rest words hgap hne hword hrest hruns =>
    rw [← List.cons_append]
    exact .next (List.forall_mem_cons.2 ⟨hc, hgap⟩) hne hword hrest hruns

theorem Runs.prepend (h : Runs rest words) (hne : word ≠ []) (hword : ∀ c ∈ word, isBlank c = false)
    (hrest : ∀ c ∈ rest.head?, isBlank c = true) : Runs (word ++ rest) (word :: words) := by
  rw [← List.nil_append (word ++ rest)]
  exact .next (by simp) hne hword hrest h

/-- The part of a word that has been read and the rest of the text consist of what is read. -/
theorem runs_wordsFrom (read cs : List Char) (hread : ∀ c ∈ read, isBlank c = false) :
    Runs (read.reverse ++ cs) (wordsFrom read cs) := by
  induction cs generalizing read with
  | nil =>
    cases read with
    | nil => exact .none (by simp)
    | cons d read =>
      rw [wordsFrom_end (by simp) (by simp)]
      refine Runs.prepend (.none (by simp)) (by simp) ?_ (by simp)
      exact fun c hc => hread c (List.mem_reverse.1 hc)
  | cons c rest ih =>
    cases hc : isBlank c with
    | true =>
      have hrest : Runs (c :: rest) (wordsFrom [] (c :: rest)) := by
        rw [wordsFrom, if_pos hc, List.isEmpty_nil, if_pos rfl]
        exact (ih [] (by simp)).blank hc
      have hhead : ∀ d ∈ (c :: rest).head?, isBlank d = true := by simpa using hc
      cases read with
      | nil => exact hrest
      | cons d read =>
        rw [wordsFrom_end (by simp) hhead]
        refine hrest.prepend (by simp) ?_ hhead
        exact fun c hc => hread c (List.mem_reverse.1 hc)
    | false =>
      have hruns := ih (c :: read) (List.forall_mem_cons.2 ⟨hc, hread⟩)
      rw [List.reverse_cons, List.append_assoc, List.singleton_append] at hruns
      rw [wordsFrom, if_neg (by simp [hc])]
      exact hruns

/-- A text consists of the words that are read from it, and of no others. -/
theorem runs_iff : Runs cs words ↔ wordsFrom [] cs = words := by
  constructor
  · exact wordsFrom_of_runs
  · rintro rfl
    exact runs_wordsFrom [] cs (by simp)

theorem Runs.proper (h : Runs cs words) :
    ∀ word ∈ words, word ≠ [] ∧ ∀ c ∈ word, isBlank c = false := by
  induction h with
  | none _ => simp
  | next _ hne hword _ _ ih => exact List.forall_mem_cons.2 ⟨⟨hne, hword⟩, ih⟩

/-! ## Words with spaces between them -/

/-- Words that are written with a space between each two are read as they are. -/
theorem wordsFrom_intercalate (h : ∀ word ∈ words, word ≠ [] ∧ ∀ c ∈ word, isBlank c = false) :
    wordsFrom [] (List.intercalate [' '] words) = words := by
  induction words with
  | nil => rfl
  | cons word words ih =>
    rw [List.forall_mem_cons] at h
    obtain ⟨⟨hne, hword⟩, hwords⟩ := h
    cases words with
    | nil =>
      have hlast : wordsFrom [] (word ++ []) = word :: wordsFrom [] [] :=
        wordsFrom_word_end hne hword (by simp)
      rw [List.append_nil] at hlast
      rw [List.intercalate_singleton, hlast]
      rfl
    | cons next words =>
      have hspace : ∀ c ∈ [' '], isBlank c = true := List.forall_mem_singleton.2 rfl
      rw [List.intercalate_cons_cons, List.append_assoc,
        wordsFrom_word_end hne hword (by simpa using hspace), wordsFrom_blanks hspace, ih hwords]

end ContractBindings.Text
