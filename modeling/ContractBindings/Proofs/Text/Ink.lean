import ContractBindings.Text.Ink
import Mathlib.Data.List.Basic

/-!
# Taking colours away

Every colour of a report begins and ends with a code. A coloured text without the codes is the text
as it is written without colours, where the text itself holds no codes.

1. `withoutCodes_code`, `withoutCodes_plain`: a code is dropped, and nothing else is.
2. `withoutCodes_renderSpans`: coloured spans without their codes are the spans without colours.
-/

namespace ContractBindings.Text

/-- The code that begins an ink, if it has one. -/
def Ink.code? (ink : Ink) : Option (List Char) :=
  ink.number?.map fun number => (inkCode number).toList

/-- The codes in a report: those of its inks, and the one that ends them all. -/
def palette : List (List Char) :=
  [Ink.bold, .blue, .green, .yellow, .dim].filterMap Ink.code? ++ [inkEnd.toList]

/-- The characters without the codes of the palette; `left` counts the characters that are left of
the code to be dropped. -/
def withoutCodes : Nat → List Char → List Char
  | _, [] => []
  | left + 1, _ :: rest => withoutCodes left rest
  | 0, c :: rest =>
    match palette.find? (·.isPrefixOf (c :: rest)) with
    | some code => withoutCodes (code.length - 1) rest
    | none => c :: withoutCodes 0 rest

/-- The text without the codes of the palette. -/
def uncoloured (s : String) : String := String.ofList (withoutCodes 0 s.toList)

/-- No character of the text begins a code. -/
def NoCode (s : String) : Prop := '\x1b' ∉ s.toList

instance (s : String) : Decidable (NoCode s) := inferInstanceAs (Decidable (_ ∉ _))

/-- A span in an ink of the palette, or in none, whose text holds no code. -/
structure Span.Clean (s : Span) : Prop where
  text : NoCode s.text
  ink : s.ink ≠ .italic

/-! ## Codes -/

theorem palette_eq : palette =
    [['\x1b', '[', '1', 'm'], ['\x1b', '[', '3', '4', 'm'], ['\x1b', '[', '3', '2', 'm'],
      ['\x1b', '[', '3', '3', 'm'], ['\x1b', '[', '2', 'm'], ['\x1b', '[', '0', 'm']] := by
  decide

theorem withoutCodes_drop (dropped rest : List Char) :
    withoutCodes dropped.length (dropped ++ rest) = withoutCodes 0 rest := by
  induction dropped with
  | nil => rfl
  | cons c dropped ih => rw [List.cons_append, List.length_cons, withoutCodes, ih]

/-- A code is dropped. -/
theorem withoutCodes_code {code : List Char} (h : code ∈ palette) (rest : List Char) :
    withoutCodes 0 (code ++ rest) = withoutCodes 0 rest := by
  -- no code begins another one, so that the code that is found is the one that stands there
  have hfind : palette.find? (·.isPrefixOf (code ++ rest)) = some code := by
    rw [palette_eq] at h ⊢
    simp only [List.mem_cons, List.not_mem_nil, or_false] at h
    rcases h with rfl | rfl | rfl | rfl | rfl | rfl <;> rfl
  obtain ⟨c, cs, rfl⟩ : ∃ c cs, code = c :: cs := by
    rw [palette_eq] at h
    cases code with
    | nil => simp at h
    | cons c cs => exact ⟨c, cs, rfl⟩
  rw [List.cons_append] at hfind ⊢
  rw [withoutCodes, hfind]
  exact withoutCodes_drop cs rest

/-- Characters that begin no code stay. -/
theorem withoutCodes_plain {cs : List Char} (h : '\x1b' ∉ cs) (rest : List Char) :
    withoutCodes 0 (cs ++ rest) = cs ++ withoutCodes 0 rest := by
  induction cs with
  | nil => rfl
  | cons c cs ih =>
    rw [List.mem_cons, not_or] at h
    have hnone : palette.find? (·.isPrefixOf (c :: (cs ++ rest))) = none := by
      rw [palette_eq]
      simp [h.1]
    rw [List.cons_append, withoutCodes, hnone, ih h.2]
    rfl

/-! ## Spans -/

theorem withoutCodes_render {s : Span} (h : s.Clean) (rest : List Char) :
    withoutCodes 0 ((s.render true).toList ++ rest) =
      (s.render false).toList ++ withoutCodes 0 rest := by
  unfold Span.render
  cases hnumber : s.ink.number? with
  | none => exact withoutCodes_plain h.text rest
  | some number =>
    have hcode : (inkCode number).toList ∈ palette := by
      have hink := h.ink
      cases hcase : s.ink <;> simp_all [Ink.number?] <;> subst hnumber <;> decide
    have hend : inkEnd.toList ∈ palette := by decide
    simp only [if_true, Bool.false_eq_true, if_false, String.toList_append, List.append_assoc]
    rw [withoutCodes_code hcode, withoutCodes_plain h.text, withoutCodes_code hend]

theorem renderSpans_cons (coloured : Bool) (s : Span) (spans : List Span) :
    renderSpans coloured (s :: spans) = s.render coloured ++ renderSpans coloured spans := by
  simp [renderSpans]

theorem renderSpans_append (coloured : Bool) (xs ys : List Span) :
    renderSpans coloured (xs ++ ys) = renderSpans coloured xs ++ renderSpans coloured ys := by
  simp [renderSpans]

theorem renderSpans_plain (coloured : Bool) (text : String) :
    renderSpans coloured [plain text] = text := by
  simp [renderSpans, Span.render, plain, Ink.number?]

/-- Coloured spans without their codes are the spans as they are written without colours. -/
theorem uncoloured_renderSpans {spans : List Span} (h : ∀ s ∈ spans, s.Clean) :
    uncoloured (renderSpans true spans) = renderSpans false spans := by
  rw [uncoloured, ← String.toList_inj, String.toList_ofList]
  induction spans with
  | nil => rfl
  | cons s spans ih =>
    rw [List.forall_mem_cons] at h
    rw [renderSpans_cons, renderSpans_cons, String.toList_append, String.toList_append,
      withoutCodes_render h.1, ih h.2]

end ContractBindings.Text
