import ContractBindings.Naming.ScreamingSnake
import Mathlib

/-!
# Characters of constants

A text in screaming snake case has the characters of the text it was made from, in upper case and
without separators, and underscores between them.

1. `toUpper_beq`, `isSeparator_toUpper`: a change of case makes letters out of letters only.
2. `mem_snake`: the characters of a constant, and `head?_snake` the first one.
-/

namespace ContractBindings.Naming

/-! ## Change of case -/

theorem toUpper_of_not_isAlpha {c : Char} (h : c.isAlpha = false) : c.toUpper = c := by
  refine Char.toUpper_eq_of_not_isLower fun hlower => ?_
  simp [Char.isAlpha, hlower] at h

/-- A mark that is no letter is the upper case of itself alone. -/
theorem toUpper_beq {mark : Char} (h : mark.isAlpha = false) (c : Char) :
    (c.toUpper == mark) = (c == mark) := by
  by_cases hc : c.isAlpha = true
  · have hne {d : Char} (hd : d.isAlpha = true) : (d == mark) = false := by
      refine beq_false_of_ne ?_
      rintro rfl
      simp [hd] at h
    rw [hne hc, hne (Char.isAlpha_toUpper_eq_isAlpha c ▸ hc)]
  · rw [toUpper_of_not_isAlpha (Bool.eq_false_iff.2 hc)]

theorem isSeparator_toUpper (c : Char) : isSeparator c.toUpper = isSeparator c := by
  rw [isSeparator, isSeparator, toUpper_beq rfl, toUpper_beq rfl, toUpper_beq rfl, toUpper_beq rfl]

/-! ## Constants -/

theorem mem_snakeAfter {before c : Char} {parted : Bool} {chars : List Char}
    (h : c ∈ snakeAfter before parted chars) :
    c = '_' ∨ ∃ d ∈ chars, isSeparator d = false ∧ c = d.toUpper := by
  induction chars generalizing before parted with
  | nil => simp [snakeAfter] at h
  | cons d rest ih =>
    have later (hrest : c = '_' ∨ ∃ e ∈ rest, isSeparator e = false ∧ c = e.toUpper) :
        c = '_' ∨ ∃ e ∈ d :: rest, isSeparator e = false ∧ c = e.toUpper :=
      hrest.imp_right fun ⟨e, he, hc⟩ => ⟨e, List.mem_cons_of_mem _ he, hc⟩
    rw [snakeAfter] at h
    split at h
    · exact later (ih h)
    · next hd =>
      have here (h : c ∈ d.toUpper :: snakeAfter d false rest) :
          c = '_' ∨ ∃ e ∈ d :: rest, isSeparator e = false ∧ c = e.toUpper := by
        rcases List.mem_cons.1 h with rfl | h
        · exact .inr ⟨d, List.mem_cons_self, Bool.eq_false_iff.2 hd, rfl⟩
        · exact later (ih h)
      split at h
      · rcases List.mem_cons.1 h with rfl | h
        · exact .inl rfl
        · exact here h
      · exact here h

/-- A constant holds underscores, and characters of its text in upper case. -/
theorem mem_snake {c : Char} {chars : List Char} (h : c ∈ snake chars) :
    c = '_' ∨ ∃ d ∈ chars, isSeparator d = false ∧ c = d.toUpper := by
  have hsub : chars.dropWhile isSeparator ⊆ chars := (List.dropWhile_sublist _).subset
  have hhead := List.head?_dropWhile_not isSeparator chars
  rw [snake] at h
  split at h
  · simp at h
  · next d rest hchars =>
    rw [hchars, List.cons_subset] at hsub
    rw [hchars] at hhead
    rcases List.mem_cons.1 h with rfl | h
    · exact .inr ⟨d, hsub.1, hhead, rfl⟩
    · exact (mem_snakeAfter h).imp_right fun ⟨e, he, hc⟩ => ⟨e, hsub.2 he, hc⟩

/-- A constant starts with the first character that is no separator. -/
theorem head?_snake (chars : List Char) :
    (snake chars).head? = (chars.dropWhile isSeparator).head?.map Char.toUpper := by
  rw [snake]
  split
  · next hchars => rw [hchars]; rfl
  · next hchars => rw [hchars]; rfl

end ContractBindings.Naming
