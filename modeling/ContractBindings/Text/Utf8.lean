/-!
# Bytes as text

A file's bytes are text only if they are well-formed UTF-8 (`ofBytes?`). Bytes that are shown to
a reader anyway are repaired first (`repaired`): every longest run of bytes that starts a
character without completing one, and every other byte that starts none, becomes one replacement
character.
-/

namespace ContractBindings.Text

/-- The bytes of a text. -/
def toBytes (s : String) : ByteArray :=
  s.toUTF8

/-- The text of well-formed bytes. -/
def ofBytes? (bytes : ByteArray) : Option String :=
  String.fromUTF8? bytes

/-- What a first byte promises: how many more bytes follow, and the range of the next one. -/
structure Lead where
  /-- Continuation bytes to follow. -/
  more : Nat
  /-- The least value of the second byte. -/
  low : Nat
  /-- The greatest value of the second byte. -/
  high : Nat

/-- The promise of a first byte, `none` for a byte that starts no character. The ranges of the
second byte keep out overlong forms, surrogates and values above U+10FFFF. -/
def Lead.of? (b : Nat) : Option Lead :=
  if b < 0x80 then some ⟨0, 0, 0⟩
  else if b < 0xC2 then none
  else if b < 0xE0 then some ⟨1, 0x80, 0xBF⟩
  else if b = 0xE0 then some ⟨2, 0xA0, 0xBF⟩
  else if b = 0xED then some ⟨2, 0x80, 0x9F⟩
  else if b < 0xF0 then some ⟨2, 0x80, 0xBF⟩
  else if b = 0xF0 then some ⟨3, 0x90, 0xBF⟩
  else if b < 0xF4 then some ⟨3, 0x80, 0xBF⟩
  else if b = 0xF4 then some ⟨3, 0x80, 0x8F⟩
  else none

/-- A character's bytes being read: the value so far and what is still owed. -/
structure Partial where
  /-- The bits read so far. -/
  value : Nat
  /-- What must follow. -/
  owed : Lead

/-- The replacement character. -/
def replacement : Char := '\uFFFD'

/-- Reads one byte outside a character: a finished character, or a started one, or neither. -/
def startCharacter (b : Nat) : List Char × Option Partial :=
  match Lead.of? b with
  | none => ([replacement], none)
  | some ⟨0, _, _⟩ => ([Char.ofNat b], none)
  | some ⟨1, low, high⟩ => ([], some ⟨b % 0x20, ⟨1, low, high⟩⟩)
  | some ⟨2, low, high⟩ => ([], some ⟨b % 0x10, ⟨2, low, high⟩⟩)
  | some lead => ([], some ⟨b % 0x08, lead⟩)

/-- Decodes bytes; a byte that a started character cannot take ends it with a replacement
character and is read again on its own. -/
def repairFrom : Option Partial → List Nat → List Char
  | none, [] => []
  | some _, [] => [replacement]
  | none, b :: rest =>
    let (done, next) := startCharacter b
    done ++ repairFrom next rest
  | some ⟨value, ⟨more, low, high⟩⟩, b :: rest =>
    if low ≤ b ∧ b ≤ high then
      let value := value * 0x40 + b % 0x40
      if more ≤ 1 then Char.ofNat value :: repairFrom none rest
      else repairFrom (some ⟨value, ⟨more - 1, 0x80, 0xBF⟩⟩) rest
    else
      let (done, next) := startCharacter b
      replacement :: done ++ repairFrom next rest

/-- The text of any bytes, with replacement characters for what is not well formed. -/
def repaired (bytes : ByteArray) : String :=
  match ofBytes? bytes with
  | some s => s
  | none => String.ofList (repairFrom none (bytes.toList.map UInt8.toNat))

end ContractBindings.Text
