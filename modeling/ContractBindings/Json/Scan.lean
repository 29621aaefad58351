import ContractBindings.Json.Fault

/-!
# Reading the parts of a JSON text

A reader takes the characters that are left and returns what it read and what is left then. A
reader that stops says where: the characters that are left at the fault, and how many bytes of
them belong to it. Lines and columns are worked out once, at the end (`Stop.placed`).

* `readText` reads a quoted text after its opening quote.
* `readNumber` reads a number. Digits are gathered into an integer as long as it stays below
  `2 ^ 64`; what does not fit is kept as a power of ten.
-/

namespace ContractBindings.Json

/-- Where and why reading stopped. -/
structure Stop where
  /-- What is wrong. -/
  fault : ReadFault
  /-- The characters that are left. -/
  rest : List Char
  /-- How many bytes of them belong to the fault. -/
  ahead : Nat

/-- The fault with its place in the whole text. -/
def Stop.placed (text : List Char) (s : Stop) : PlacedFault :=
  ⟨s.fault, Position.of text s.rest s.ahead⟩

/-- The result of a reader: a value and the characters that are left, or a stop. -/
abbrev Scan (α : Type) := Except Stop (α × List Char)

/-- Stops with a syntax fault. -/
def stop {α : Type} (fault : SyntaxFault) (rest : List Char) (ahead : Nat) : Except Stop α :=
  .error ⟨.syntaxFault fault, rest, ahead⟩

/-- The blanks between the parts of a JSON text. -/
def isSpace (c : Char) : Bool :=
  c == ' ' || c == '\n' || c == '\t' || c == '\r'

/-- The text after its leading blanks. -/
def skipSpaces (s : List Char) : List Char := s.dropWhile isSpace

/-- The text starts with a digit. -/
def startsWithDigit : List Char → Bool
  | c :: _ => c.isDigit
  | [] => false

/-- Reads the rest of a literal. A character that does not belong to it is part of the fault. -/
def readLiteral : List Char → List Char → Except Stop (List Char)
  | [], s => .ok s
  | _ :: _, [] => stop .endInValue [] 0
  | w :: word, c :: rest =>
    if c = w then readLiteral word rest else stop .badLiteral (c :: rest) 1

/-! ## Quoted text -/

/-- The value of a hexadecimal digit. -/
def hexDigit? (c : Char) : Option Nat :=
  if '0' ≤ c ∧ c ≤ '9' then some (c.toNat - '0'.toNat)
  else if 'a' ≤ c ∧ c ≤ 'f' then some (c.toNat - 'a'.toNat + 10)
  else if 'A' ≤ c ∧ c ≤ 'F' then some (c.toNat - 'A'.toNat + 10)
  else none

/-- The value of four hexadecimal digits. -/
def hexFour? (a b c d : Char) : Option Nat := do
  return (((← hexDigit? a) * 16 + (← hexDigit? b)) * 16 + (← hexDigit? c)) * 16 + (← hexDigit? d)

/-- Reads the four digits of a numeric escape. They are four bytes of the text: with fewer left
the text ends too early, and a wrong one makes all four part of the fault. -/
def readHex (s : List Char) : Scan Nat :=
  let fault : Except Stop (Nat × List Char) :=
    if byteCount s < 4 then stop .endInText [] 0 else stop .badEscape s 4
  match s with
  | a :: b :: c :: d :: rest =>
    match hexFour? a b c d with
    | some n => .ok (n, rest)
    | none => fault
  | _ => fault

/-- The first half of a surrogate pair. -/
def isHighHalf (n : Nat) : Bool := 0xD800 ≤ n && n ≤ 0xDBFF

/-- The second half of a surrogate pair. -/
def isLowHalf (n : Nat) : Bool := 0xDC00 ≤ n && n ≤ 0xDFFF

/-- The character of a surrogate pair. -/
def pairCharacter (high low : Nat) : Char :=
  Char.ofNat ((high - 0xD800) * 0x400 + (low - 0xDC00) + 0x10000)

/-- Reads the second escape of a surrogate pair. -/
def readLowHalf (high : Nat) : List Char → Scan Char
  | [] => stop .endInText [] 0
  | ['\\'] => stop .endInText [] 0
  | '\\' :: 'u' :: s =>
    match readHex s with
    | .error e => .error e
    | .ok (low, rest) =>
      if isLowHalf low then .ok (pairCharacter high low, rest) else stop .loneSurrogate rest 0
  | '\\' :: c :: rest => stop .unfinishedPair (c :: rest) 1
  | s => stop .unfinishedPair s 1

/-- Reads an escape after its backslash. -/
def readEscape : List Char → Scan Char
  | [] => stop .endInText [] 0
  | '"' :: rest => .ok ('"', rest)
  | '\\' :: rest => .ok ('\\', rest)
  | '/' :: rest => .ok ('/', rest)
  | 'b' :: rest => .ok ('\x08', rest)
  | 'f' :: rest => .ok ('\x0c', rest)
  | 'n' :: rest => .ok ('\n', rest)
  | 'r' :: rest => .ok ('\r', rest)
  | 't' :: rest => .ok ('\t', rest)
  | 'u' :: s =>
    match readHex s with
    | .error e => .error e
    | .ok (n, rest) =>
      if isLowHalf n then stop .loneSurrogate rest 0
      else if isHighHalf n then readLowHalf n rest
      else .ok (Char.ofNat n, rest)
  | s => stop .badEscape s 1

theorem readHex_length {s rest : List Char} {n : Nat} (h : readHex s = .ok (n, rest)) :
    rest.length < s.length := by
  unfold readHex at h
  match s with
  | a :: b :: c :: d :: r =>
    cases hd : hexFour? a b c d with
    | none => simp only [hd] at h; split at h <;> simp [stop] at h
    | some m =>
      simp only [hd, Except.ok.injEq, Prod.mk.injEq] at h
      simp only [← h.2, List.length_cons]; omega
  | [] | [_] | [_, _] | [_, _, _] => simp only at h; split at h <;> simp [stop] at h

theorem readLowHalf_length {high : Nat} {s rest : List Char} {c : Char}
    (h : readLowHalf high s = .ok (c, rest)) : rest.length < s.length := by
  unfold readLowHalf at h
  split at h
  · simp [stop] at h
  · simp [stop] at h
  · split at h
    · simp at h
    · rename_i hr
      split at h
      · simp only [Except.ok.injEq, Prod.mk.injEq] at h
        have := readHex_length hr
        simp only [← h.2, List.length_cons]; omega
      · simp [stop] at h
  · simp [stop] at h
  · simp [stop] at h

theorem readEscape_length {s rest : List Char} {c : Char} (h : readEscape s = .ok (c, rest)) :
    rest.length < s.length := by
  unfold readEscape at h
  split at h
  case h_10 =>
    split at h
    · simp at h
    · rename_i hr
      have := readHex_length hr
      split at h
      · simp [stop] at h
      · split at h
        · have := readLowHalf_length h
          simp only [List.length_cons]; omega
        · simp only [Except.ok.injEq, Prod.mk.injEq] at h
          simp only [← h.2, List.length_cons]; omega
  all_goals first
    | (simp only [Except.ok.injEq, Prod.mk.injEq] at h
       simp only [← h.2, List.length_cons]; omega)
    | simp [stop] at h

/-- Reads a quoted text up to its closing quote; `done` holds the characters read so far, last
one first. -/
def readTextFrom (done : List Char) : List Char → Scan String
  | [] => stop .endInText [] 0
  | '"' :: rest => .ok (String.ofList done.reverse, rest)
  | '\\' :: s =>
    match _h : readEscape s with
    | .error e => .error e
    | .ok (c, rest) => readTextFrom (c :: done) rest
  | c :: rest =>
    if c.toNat < 0x20 then stop .controlCharacter (c :: rest) 1
    else readTextFrom (c :: done) rest
termination_by s => s.length
decreasing_by
  · have := readEscape_length _h
    simp only [List.length_cons]; omega
  · simp

/-- Reads a quoted text after its opening quote. -/
def readText (s : List Char) : Scan String := readTextFrom [] s

/-! ## Numbers -/

/-- Gathers digits into `value` while it stays at most `limit`, and counts them. -/
def gather (limit value count : Nat) : List Char → Nat × Nat × List Char
  | [] => (value, count, [])
  | c :: rest =>
    if c.isDigit ∧ value * 10 + (c.toNat - '0'.toNat) ≤ limit then
      gather limit (value * 10 + (c.toNat - '0'.toNat)) (count + 1) rest
    else (value, count, c :: rest)

/-- The greatest unsigned integer of 64 bits. -/
def greatestUnsigned : Nat := 18446744073709551615

/-- The greatest exponent that is worked out. -/
def greatestExponent : Nat := 2147483647

/-- The binary64 number with these digits and this power of ten. -/
def scaledNumber (negative : Bool) (digits : Nat) (exponent : Int) (rest : List Char) :
    Scan Number :=
  match Magnitude.scaled? digits exponent with
  | some magnitude => .ok (.binary64 ⟨negative, magnitude⟩, rest)
  | none => stop .outOfRange rest 0

/-- Reads an exponent after its `e`. One that is too great to be worked out stops at the digit
that makes it so, unless the number is zero or becomes zero. -/
def readExponent (negative : Bool) (digits : Nat) (exponent : Int) (s : List Char) :
    Scan Number :=
  let (below, s) : Bool × List Char :=
    match s with
    | '+' :: rest => (false, rest)
    | '-' :: rest => (true, rest)
    | _ => (false, s)
  match s with
  | [] => stop .endInValue [] 0
  | c :: rest =>
    if c.isDigit then
      let (value, _, rest) := gather greatestExponent (c.toNat - '0'.toNat) 1 rest
      if startsWithDigit rest then
        if digits ≠ 0 ∧ ¬below then stop .outOfRange (rest.drop 1) 0
        else .ok (.binary64 ⟨negative, Magnitude.zero⟩, rest.dropWhile Char.isDigit)
      else scaledNumber negative digits (if below then exponent - value else exponent + value) rest
    else stop .badNumber (c :: rest) 1

/-- Reads an exponent, if there is one. -/
def readScale (negative : Bool) (digits : Nat) (exponent : Int) : List Char → Scan Number
  | 'e' :: rest => readExponent negative digits exponent rest
  | 'E' :: rest => readExponent negative digits exponent rest
  | s => scaledNumber negative digits exponent s

/-- Reads the digits after a point. Digits that no longer fit count for nothing. -/
def readFraction (negative : Bool) (digits : Nat) (exponent : Int) (s : List Char) :
    Scan Number :=
  let (value, count, rest) := gather greatestUnsigned digits 0 s
  if startsWithDigit rest then
    readScale negative value (exponent - count) (rest.dropWhile Char.isDigit)
  else if count = 0 then
    match rest with
    | [] => stop .endInValue [] 0
    | _ => stop .badNumber rest 1
  else readScale negative value (exponent - count) rest

/-- The number without point and exponent: an integer if it fits into 64 bits. Minus zero is not
an integer. -/
def plainNumber (negative : Bool) (digits : Nat) : Number :=
  if negative then
    if 0 < digits ∧ digits ≤ 9223372036854775808 then .integer (-digits)
    else .binary64 ⟨true, Magnitude.ofRatio digits 1⟩
  else .integer digits

/-- Reads what follows the integer digits of a number. -/
def readTail (negative : Bool) (digits : Nat) : List Char → Scan Number
  | '.' :: rest => readFraction negative digits 0 rest
  | 'e' :: rest => readExponent negative digits 0 rest
  | 'E' :: rest => readExponent negative digits 0 rest
  | s => .ok (plainNumber negative digits, s)

/-- Reads what follows the integer digits of a number of which `exponent` digits did not fit. -/
def readLongTail (negative : Bool) (digits : Nat) (exponent : Nat) : List Char → Scan Number
  | '.' :: rest => readFraction negative digits exponent rest
  | s => readScale negative digits exponent s

/-- Reads a number after its sign. -/
def readDigits (negative : Bool) : List Char → Scan Number
  | [] => stop .endInValue [] 0
  | '0' :: rest => if startsWithDigit rest then stop .badNumber rest 1 else readTail negative 0 rest
  | c :: rest =>
    if c.isDigit then
      let (value, _, rest) := gather greatestUnsigned (c.toNat - '0'.toNat) 1 rest
      if startsWithDigit rest then
        readLongTail negative value (rest.takeWhile Char.isDigit).length
          (rest.dropWhile Char.isDigit)
      else readTail negative value rest
    else stop .badNumber (c :: rest) 1

/-- Reads a number. -/
def readNumber : List Char → Scan Number
  | '-' :: rest => readDigits true rest
  | s => readDigits false s

end ContractBindings.Json
