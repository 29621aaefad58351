import ContractBindings.Text.Utf8

/-!
# Octets

Programs work on bytes, and most of what they do with them is said in characters. A text of octets
has one character for each byte, so that both are at hand.

* `octets`: the octets of a text in UTF-8.
* `ofOctets`: the text of octets, repaired where they are no UTF-8.
* `octetBytes`, `octetsOf`: octets as bytes and back.
-/

namespace ContractBindings.Text

/-- The octets of bytes. -/
def octetsOf (bytes : ByteArray) : String :=
  String.ofList (bytes.toList.map fun b => Char.ofNat b.toNat)

/-- The bytes of octets. -/
def octetBytes (s : String) : ByteArray :=
  (s.toList.map fun c => c.toNat.toUInt8).toByteArray

/-- The octets of a text. -/
def octets (s : String) : String :=
  if s.toList.all (·.toNat < 0x80) then s else octetsOf (toBytes s)

/-- The text of octets. -/
def ofOctets (s : String) : String :=
  if s.toList.all (·.toNat < 0x80) then s else repaired (octetBytes s)

end ContractBindings.Text
