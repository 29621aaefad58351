import ContractBindings.Number.Binary64

/-!
# Formats

How a number or a text is written into a field: with a sign, with zeros or blanks up to a width, and
with so many digits. Fractional numbers are the binary64 numbers, infinity and what is no number,
and are written with exactly the digits that their exact values have, rounded to the nearest.
-/

namespace ContractBindings.Text

/-- A field. -/
structure Format where
  /-- Blanks go after the text, and not before it. -/
  left : Bool := false
  /-- A number that is not negative gets a sign. -/
  signed : Bool := false
  /-- A number that is not negative gets a blank in the place of a sign. -/
  blank : Bool := false
  /-- Zeros, and not blanks, go before a number. -/
  zeros : Bool := false
  /-- With what tells the base of a number, and with every point and zero of a fraction. -/
  full : Bool := false
  width : Nat := 0
  precision : Option Nat := none

/-- A number with a fraction. -/
inductive Quantity where
  | finite (number : Binary64)
  | infinite (negative : Bool)
  | undefined (negative : Bool)

namespace Format

/-- Repeats a character. -/
def repeated (c : Char) (n : Nat) : String := String.ofList (List.replicate n c)

/-- A sign and a text, filled up to the width. -/
def filled (f : Format) (zeros : Bool) (sign text : String) : String :=
  let missing := f.width - (sign.length + text.length)
  if f.left then sign ++ text ++ repeated ' ' missing
  else if zeros then sign ++ repeated '0' missing ++ text
  else repeated ' ' missing ++ sign ++ text

/-- A text, of which at most as many characters are written as the precision says. -/
def text (f : Format) (s : String) : String :=
  f.filled false "" (f.precision.elim s fun n => String.ofList (s.toList.take n))

/-- What stands before a number. -/
def sign (f : Format) (negative : Bool) : String :=
  if negative then "-" else if f.signed then "+" else if f.blank then " " else ""

/-- Digits, at least as many as the precision says. -/
def digits (f : Format) (base n : Nat) : String :=
  match f.precision with
  | none => String.ofList (Nat.toDigits base n)
  | some least =>
    let text := if n = 0 then "" else String.ofList (Nat.toDigits base n)
    repeated '0' (least - text.length) ++ text

/-- An integer. -/
def integer (f : Format) (n : Int) : String :=
  f.filled (f.zeros && f.precision.isNone) (f.sign (n < 0)) (f.digits 10 n.natAbs)

/-- An integer without a sign, in a base of eight, ten or sixteen. -/
def natural (f : Format) (base : Nat) (capital : Bool) (n : Nat) : String :=
  let digits := f.digits base n
  let digits :=
    if base = 8 && f.full && digits.toList.head? ≠ some '0' then "0" ++ digits else digits
  let start := if base = 16 && f.full && n ≠ 0 then "0x" else ""
  let whole (s : String) : String := if capital then s.toUpper else s
  f.filled (f.zeros && f.precision.isNone) (whole start) (whole digits)

/-! ## Fractions -/

/-- The digits of a number before and after a point. -/
def pointed (f : Format) (places n : Nat) : String :=
  let digits := String.ofList (Nat.toDigits 10 n)
  let digits := repeated '0' (places + 1 - digits.length) ++ digits
  let whole := digits.toList.take (digits.length - places)
  let rest := digits.toList.drop (digits.length - places)
  String.ofList whole ++ (if rest.isEmpty && !f.full then "" else ".") ++ String.ofList rest

/-- A quotient with a number of places after the point. -/
def fixed (f : Format) (places num den : Nat) : String :=
  f.pointed places (Magnitude.roundHalfEven (num * Nat.pow 10 places) den)

/-- The exponent of the power of ten that is nearest below a quotient. -/
def exponentOf (num den : Nat) : Int :=
  if num = 0 then 0
  else
    let guess : Int := ((Nat.toDigits 10 num).length : Int) - (Nat.toDigits 10 den).length
    let scaled := (num * Nat.pow 10 (-guess).toNat, den * Nat.pow 10 guess.toNat)
    if scaled.1 < scaled.2 then guess - 1 else guess

/-- The digits of a quotient, of which `places` stand after the point, and its exponent. -/
def significant (places num den : Nat) : Nat × Int :=
  let e := exponentOf num den
  let shift : Int := places - e
  let n := Magnitude.roundHalfEven (num * Nat.pow 10 shift.toNat) (den * Nat.pow 10 (-shift).toNat)
  if n = Nat.pow 10 (places + 1) then (Nat.pow 10 places, e + 1) else (n, e)

/-- An exponent. -/
def exponentText (e : Int) : String :=
  let digits := String.ofList (Nat.toDigits 10 e.natAbs)
  "e" ++ (if e < 0 then "-" else "+") ++ (if digits.length < 2 then "0" else "") ++ digits

/-- A quotient with an exponent. -/
def scientific (f : Format) (places num den : Nat) : String :=
  let (n, e) := significant places num den
  f.pointed places n ++ exponentText e

/-- Digits without the zeros after the point. -/
def trimmed (s : String) : String :=
  if s.contains '.' then
    let kept := s.toList.reverse.dropWhile (· = '0')
    let kept := if kept.head? = some '.' then kept.tail else kept
    String.ofList kept.reverse
  else s

/-- A quotient with so many digits, with an exponent if that is shorter. -/
def general (f : Format) (count num den : Nat) : String :=
  let count := max count 1
  let (_, e) := significant (count - 1) num den
  let cut (s : String) : String := if f.full then s else trimmed s
  if -4 ≤ e && e < count then cut (f.fixed ((count : Int) - 1 - e).toNat num den)
  else
    let (n, e) := significant (count - 1) num den
    cut (f.pointed (count - 1) n) ++ exponentText e

/-- A fractional number in one of the three notations, which a letter names. -/
def fraction (f : Format) (letter : Char) (q : Quantity) : String :=
  let whole (s : String) : String := if letter.isUpper then s.toUpper else s
  match q with
  | .infinite negative => f.filled false (f.sign negative) (whole "inf")
  | .undefined negative => f.filled false (f.sign negative) (whole "nan")
  | .finite x =>
    let (num, den) := x.magnitude.ratio
    let places := f.precision.getD 6
    let text :=
      match letter.toLower with
      | 'f' => f.fixed places num den
      | 'e' => f.scientific places num den
      | _ => f.general places num den
    f.filled f.zeros (f.sign x.negative) (whole text)

end Format

namespace Quantity

/-- The value of a digit. -/
def digit (c : Char) : Nat :=
  if c.isDigit then c.toNat - '0'.toNat
  else if c.isLower then c.toNat - 'a'.toNat + 10
  else c.toNat - 'A'.toNat + 10

/-- A digit in a base of ten or sixteen. -/
def isDigit (hex : Bool) (c : Char) : Bool :=
  c.isDigit || (hex && (('a' ≤ c && c ≤ 'f') || ('A' ≤ c && c ≤ 'F')))

/-- Reads an exponent after a letter: its value and what is left, or nothing. -/
def exponent? (letter : Char) : List Char → Option (Int × List Char)
  | c :: rest =>
    if c.toLower = letter then
      let (negative, rest) :=
        match rest with
        | '-' :: rest => (true, rest)
        | '+' :: rest => (false, rest)
        | rest => (false, rest)
      let digits := rest.takeWhile Char.isDigit
      if digits.isEmpty then none
      else
        let n : Nat := digits.foldl (fun n c => n * 10 + digit c) 0
        let n := min n 100000
        some (if negative then -(n : Int) else n, rest.drop digits.length)
    else none
  | [] => none

/-- The number nearest a quotient. The second part tells whether it is out of range. -/
def ofRatio (negative : Bool) (num den : Nat) : Quantity × Bool :=
  let x := Magnitude.ofRatio num den
  if x.isFinite then (.finite ⟨negative, x⟩, num ≠ 0 && x.significand < Nat.pow 2 52)
  else (.infinite negative, true)

/-- A text starts with a word, in letters of any size. -/
def startsWith (word : String) (cs : List Char) : Bool :=
  (cs.take word.length).map Char.toLower = word.toList

/-- Reads the number at the start of a text: the number, whether it is out of range, and what is
left. -/
def read? (cs : List Char) : Option (Quantity × Bool × List Char) :=
  let cs := cs.dropWhile fun c => c = ' ' || ('\t' ≤ c && c ≤ '\r')
  let (negative, cs) :=
    match cs with
    | '-' :: rest => (true, rest)
    | '+' :: rest => (false, rest)
    | cs => (false, cs)
  if startsWith "infinity" cs then some (.infinite negative, false, cs.drop 8)
  else if startsWith "inf" cs then some (.infinite negative, false, cs.drop 3)
  else if startsWith "nan" cs then
    let rest := cs.drop 3
    let rest :=
      match rest with
      | '(' :: inside =>
        match inside.dropWhile fun c => c.isAlphanum || c = '_' with
        | ')' :: after => after
        | _ => rest
      | rest => rest
    some (.undefined negative, false, rest)
  else
    let (hex, cs) :=
      match cs with
      | '0' :: x :: c :: rest =>
        if x.toLower = 'x' && (isDigit true c || (c = '.' && rest.head?.any (isDigit true))) then
          (true, c :: rest)
        else (false, cs)
      | cs => (false, cs)
    let whole := cs.takeWhile (isDigit hex)
    let rest := cs.drop whole.length
    let (part, rest) :=
      match rest with
      | '.' :: after =>
        let part := after.takeWhile (isDigit hex)
        if whole.isEmpty && part.isEmpty then ([], rest) else (part, after.drop part.length)
      | rest => ([], rest)
    if whole.isEmpty && part.isEmpty then none
    else
      let base := if hex then 16 else 10
      let n := (whole ++ part).foldl (fun n c => n * base + digit c) 0
      let (e, rest) := (exponent? (if hex then 'p' else 'e') rest).getD (0, rest)
      let power : Nat := if hex then 2 else 10
      let scale : Int := e - (if hex then 4 * part.length else part.length)
      let (q, far) :=
        if n = 0 then (.finite ⟨negative, .zero⟩, false)
        else ofRatio negative (n * Nat.pow power scale.toNat) (Nat.pow power (-scale).toNat)
      some (q, far, rest)

end Quantity

end ContractBindings.Text
