import ContractBindings.Number.Binary64

/-!
# Shortest decimal text of a binary64 number

A number is written with the fewest significant digits that still read back as that number, and
of several such texts with the nearest.

* `Magnitude.shortest` finds the digits: for 1, 2, … 17 digits it tries the two neighbours of the
  number on that decimal grid, and takes the first grid on which one of them rounds to it.
* `Binary64.text` lays the digits out: positional notation from `1e-5` up to below `1e16`, always
  with a point, and otherwise one digit before the point and a signed exponent.
-/

namespace ContractBindings

/-- A decimal number `digits · 10 ^ exponent`. -/
structure Decimal where
  /-- The significant digits as an integer. -/
  digits : Nat
  /-- The power of ten. -/
  exponent : Int
  deriving DecidableEq, Repr

namespace Decimal

/-- `digits · 10 ^ exponent` as a numerator and a denominator. -/
def ratio (x : Decimal) : Nat × Nat :=
  (x.digits * Nat.pow 10 x.exponent.toNat, Nat.pow 10 (-x.exponent).toNat)

/-- Drops zeros at the end of the digits, at most `limit` of them. -/
def trimmed : Nat → Decimal → Decimal
  | 0, x => x
  | limit + 1, x =>
    if x.digits ≠ 0 ∧ x.digits % 10 = 0 then trimmed limit ⟨x.digits / 10, x.exponent + 1⟩ else x

end Decimal

namespace Magnitude

/-- The real numbers that round to a magnitude: from `low` to `high` over one denominator, both
ends included iff the significand is even. -/
structure Span where
  /-- Numerator of the lower end. -/
  low : Nat
  /-- Numerator of the magnitude itself. -/
  value : Nat
  /-- Numerator of the upper end. -/
  high : Nat
  /-- The denominator. -/
  den : Nat
  /-- The ends belong to it. -/
  closed : Bool

/-- The span of a positive magnitude. Below a power of two the neighbour is half as far. -/
def span (x : Magnitude) : Span :=
  let up := Nat.pow 2 (x.exponent - 2).toNat
  let low :=
    if x.significand = Nat.pow 2 52 ∧ leastExponent < x.exponent then 4 * x.significand - 1
    else 4 * x.significand - 2
  { low := low * up
    value := 4 * x.significand * up
    high := (4 * x.significand + 2) * up
    den := Nat.pow 2 (2 - x.exponent).toNat
    closed := x.significand % 2 == 0 }

/-- The decimal number lies in the span. -/
def Span.holds (s : Span) (d : Decimal) : Bool :=
  let (num, den) := d.ratio
  let left := s.low * den
  let here := num * s.den
  let right := s.high * den
  if s.closed then left ≤ here && here ≤ right else left < here && here < right

/-- The number of decimal digits of an integer. -/
def digitCount (n : Nat) : Nat := (Nat.toDigits 10 n).length

/-- The position of the decimal point before the first significant digit: the `k` for which
`10 ^ (k - 1) ≤ value < 10 ^ k`. -/
def Span.pointPosition (s : Span) : Int :=
  if s.den ≤ s.value then digitCount (s.value / s.den)
  else
    let t := digitCount (s.den / s.value)
    if s.den = s.value * Nat.pow 10 (t - 1) then 2 - (t : Int) else 1 - (t : Int)

/-- The neighbour of the value on a grid of `10 ^ exponent` that lies in the span, the nearer of
two, the even one at equal distance. -/
def Span.onGrid? (s : Span) (exponent : Int) : Option Decimal :=
  let num := s.value * Nat.pow 10 (-exponent).toNat
  let den := s.den * Nat.pow 10 exponent.toNat
  let below : Decimal := ⟨num / den, exponent⟩
  let above : Decimal := ⟨num / den + 1, exponent⟩
  match s.holds below, s.holds above with
  | false, false => none
  | true, false => some below
  | false, true => some above
  | true, true => some ⟨roundHalfEven num den, exponent⟩

/-- The first grid with a hit, from `count` digits on; `left` bounds the grids tried. -/
def Span.search (s : Span) (point : Int) (count : Nat) : Nat → Decimal
  | 0 => ⟨0, 0⟩
  | left + 1 =>
    match s.onGrid? (point - count) with
    | some d => d
    | none => s.search point (count + 1) left

/-- The shortest decimal number that rounds to a positive magnitude. Seventeen digits are enough
for every magnitude of the format. -/
def shortest (x : Magnitude) : Decimal :=
  (x.span.search x.span.pointPosition 1 17).trimmed 20

end Magnitude

namespace Decimal

/-- The digits of an exponent after `e`, with its sign. -/
def exponentText (e : Int) : List Char :=
  'e' :: (if e < 0 then '-' else '+') :: Nat.toDigits 10 e.natAbs

/-- The least position of the decimal point that is written with zeros after the point. -/
def leastPoint : Int := -4

/-- The greatest position of the decimal point that is written without an exponent. -/
def greatestPoint : Int := 16

/-- The layout of a positive decimal number. -/
def text (x : Decimal) : List Char :=
  let digits := Nat.toDigits 10 x.digits
  let point : Int := digits.length + x.exponent
  if 0 ≤ x.exponent ∧ point ≤ greatestPoint then
    digits ++ List.replicate x.exponent.toNat '0' ++ ['.', '0']
  else if 0 < point ∧ point ≤ greatestPoint then
    digits.take point.toNat ++ '.' :: digits.drop point.toNat
  else if leastPoint ≤ point ∧ point ≤ 0 then
    ['0', '.'] ++ List.replicate (-point).toNat '0' ++ digits
  else
    match digits with
    | [d] => d :: exponentText (point - 1)
    | d :: rest => d :: '.' :: rest ++ exponentText (point - 1)
    | [] => []

end Decimal

/-- The text of a number; zero keeps its sign. -/
def Binary64.text (x : Binary64) : List Char :=
  let digits := if x.magnitude.isZero then ['0', '.', '0'] else x.magnitude.shortest.text
  if x.negative then '-' :: digits else digits

end ContractBindings
