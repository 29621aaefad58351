/-!
# Blank characters

The characters that separate words and that a diagnostic loses at its end: Unicode's
`White_Space` property. A zero width space is not among them.
-/

namespace ContractBindings.Text

/-- Has the property `White_Space`. -/
def isBlank (c : Char) : Bool :=
  let n := c.toNat
  (9 ≤ n && n ≤ 13) || n == 0x20 || n == 0x85 || n == 0xA0 || n == 0x1680 ||
    (0x2000 ≤ n && n ≤ 0x200A) || n == 0x2028 || n == 0x2029 || n == 0x202F || n == 0x205F ||
    n == 0x3000

/-- Every character is blank. The empty text is blank. -/
def allBlank (s : String) : Bool :=
  s.toList.all isBlank

/-- The text without the blanks at its end. -/
def trimEnd (s : String) : String :=
  String.ofList (s.toList.reverse.dropWhile isBlank).reverse

/-- The text without the blanks at its start. -/
def trimStart (s : String) : String :=
  String.ofList (s.toList.dropWhile isBlank)

/-- The text without the blanks at its start and at its end. -/
def trim (s : String) : String := trimEnd (trimStart s)

theorem dropWhile_isBlank_eq_nil {cs : List Char} :
    cs.dropWhile isBlank = [] ↔ cs.all isBlank = true := by
  induction cs with
  | nil => simp
  | cons c rest ih => cases h : isBlank c <;> simp [h, ih]

/-- Trimming leaves nothing just of a text that is blank. -/
@[simp] theorem isEmpty_trim (s : String) : (trim s).isEmpty = allBlank s := by
  rw [Bool.eq_iff_iff, String.isEmpty_iff, ← String.toList_eq_nil_iff, allBlank, trim, trimEnd,
    trimStart, String.toList_ofList, String.toList_ofList, List.reverse_eq_nil_iff,
    dropWhile_isBlank_eq_nil, List.all_reverse]
  cases h : s.toList.dropWhile isBlank with
  | nil => simp [dropWhile_isBlank_eq_nil.1 h]
  | cons c rest =>
    -- the character at which dropping stops is not blank
    have hc : isBlank c = false := by
      have hhead := List.head?_dropWhile_not isBlank s.toList
      rwa [h] at hhead
    have hnot : ¬s.toList.all isBlank = true := by
      rw [← dropWhile_isBlank_eq_nil, h]
      exact List.cons_ne_nil c rest
    simp [hc, hnot]

/-- The words of a text, where `word` is the part of the current word read so far, last
character first. -/
def wordsFrom (word : List Char) : List Char → List (List Char)
  | [] => if word.isEmpty then [] else [word.reverse]
  | c :: rest =>
    if isBlank c then
      if word.isEmpty then wordsFrom [] rest else word.reverse :: wordsFrom [] rest
    else wordsFrom (c :: word) rest

/-- The longest runs of characters that are not blank, in order. -/
def words (s : String) : List String :=
  (wordsFrom [] s.toList).map String.ofList

end ContractBindings.Text
