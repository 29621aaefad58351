import ContractBindings.Text.Utf8
import Mathlib.Data.String.Basic
import Mathlib.Tactic.SplitIfs

/-!
# Texts in byte order

UTF-8 keeps the order of the characters: texts that are in the order of their characters are in the
order of their bytes.

1. `encoded_lt`: of two characters the lesser one has the lesser bytes, whatever follows them.
2. `bytes_lt`: of two texts the lesser one has the lesser bytes.
-/

namespace ContractBindings.Text

/-- The bytes of a text, one after the other. -/
def bytes (s : String) : List UInt8 := (toBytes s).data.toList

theorem bytes_eq (s : String) : bytes s = s.toList.flatMap String.utf8EncodeChar := by
  rw [bytes, toBytes, String.toUTF8, ← String.utf8Encode_toList, List.utf8Encode,
    List.data_toByteArray]

theorem ofNat_lt_ofNat {m n : Nat} (hm : m < 256) (hn : n < 256) :
    UInt8.ofNat m < UInt8.ofNat n ↔ m < n := by
  rw [UInt8.lt_iff_toNat_lt, UInt8.toNat_ofNat_of_lt' hm, UInt8.toNat_ofNat_of_lt' hn]

theorem ofNat_eq_ofNat {m n : Nat} (hm : m < 256) (hn : n < 256) :
    UInt8.ofNat m = UInt8.ofNat n ↔ m = n := by
  rw [← UInt8.toNat_inj, UInt8.toNat_ofNat_of_lt' hm, UInt8.toNat_ofNat_of_lt' hn]

theorem codePoint_lt (c : Char) : c.val.toNat < 0x110000 := by
  rcases c.valid with h | h
  · exact h.trans (by decide)
  · exact h.2

/-- The lesser of two characters has the lesser bytes, whatever follows them. -/
theorem encoded_lt {c d : Char} (h : c < d) (s t : List UInt8) :
    String.utf8EncodeChar c ++ s < String.utf8EncodeChar d ++ t := by
  have hc := codePoint_lt c
  have hd := codePoint_lt d
  have hlt : c.val.toNat < d.val.toNat := h
  simp only [String.utf8EncodeChar]
  generalize c.val.toNat = m at *
  generalize d.val.toNat = n at *
  -- the bytes hold the digits in base 64, and the first digit that differs decides
  have hm : m = m / 262144 % 8 * 262144 + m / 4096 % 64 * 4096 + m / 64 % 64 * 64 + m % 64 := by
    omega
  have hn : n = n / 262144 % 8 * 262144 + n / 4096 % 64 * 4096 + n / 64 % 64 * 64 + n % 64 := by
    omega
  split_ifs <;>
    simp (disch := omega) only [List.cons_append, List.cons_lt_cons_iff, ofNat_lt_ofNat,
      ofNat_eq_ofNat] <;> omega

/-- The lesser of two texts has the lesser bytes. -/
theorem bytes_lt {s t : String} (h : s < t) : bytes s < bytes t := by
  rw [bytes_eq, bytes_eq]
  rw [String.lt_iff_toList_lt] at h
  generalize s.toList = cs at h
  generalize t.toList = ds at h
  induction ds generalizing cs with
  | nil => exact absurd h (List.not_lt_nil cs)
  | cons d ds ih =>
    cases cs with
    | nil =>
      obtain ⟨b, rest, hb⟩ := List.exists_cons_of_ne_nil
        (List.ne_nil_of_length_pos (String.length_utf8EncodeChar d ▸ d.utf8Size_pos))
      rw [List.flatMap_nil, List.flatMap_cons, hb]
      exact List.nil_lt_cons b _
    | cons c cs =>
      rw [List.flatMap_cons, List.flatMap_cons]
      rcases List.cons_lt_cons_iff.1 h with hlt | ⟨rfl, hrest⟩
      · exact encoded_lt hlt _ _
      · exact List.append_left_lt (ih cs hrest)

end ContractBindings.Text
