/-!
# Binary64 numbers

The finite numbers of the 64-bit binary floating-point format, with exact arithmetic on their
significand and exponent.

* `Magnitude.ofRatio` rounds a quotient to the nearest magnitude, a tie to the even significand.
  All other operations are this rounding of an exact result.
* `Magnitude.scaled?` is the magnitude of a decimal number: its digits as an integer, multiplied
  or divided by a power of ten, each step rounded on its own. Two roundings can differ from the
  one rounding of the exact value; readers of this format depend on the two.
-/

namespace ContractBindings

/-- A magnitude `significand · 2 ^ exponent`. Numbers built here have a significand below `2 ^ 53`
and an exponent of at least `-1074`, and a significand below `2 ^ 52` only at that exponent. -/
structure Magnitude where
  /-- The integer part of the representation. -/
  significand : Nat
  /-- The power of two. -/
  exponent : Int
  deriving DecidableEq, Repr

/-- A finite binary64 number. Zero has both signs. -/
structure Binary64 where
  /-- The sign is minus. -/
  negative : Bool
  /-- The absolute value. -/
  magnitude : Magnitude
  deriving DecidableEq, Repr

namespace Magnitude

/-- The least exponent. -/
def leastExponent : Int := -1074

/-- The greatest exponent of a finite number. -/
def greatestExponent : Int := 971

/-- Zero. -/
def zero : Magnitude := ⟨0, leastExponent⟩

/-- The magnitude is zero. -/
def isZero (x : Magnitude) : Bool := x.significand == 0

/-- The magnitude is within the format's range. -/
def isFinite (x : Magnitude) : Bool := x.exponent ≤ greatestExponent

/-- The integer nearest `num / den`, the even one of two. -/
def roundHalfEven (num den : Nat) : Nat :=
  let floor := num / den
  let twice := 2 * (num % den)
  if twice < den then floor
  else if den < twice then floor + 1
  else floor + floor % 2

/-- `num · 2 ^ (-exponent) / den` as a numerator and a denominator. -/
def unscaled (num den : Nat) (exponent : Int) : Nat × Nat :=
  (num * Nat.pow 2 (-exponent).toNat, den * Nat.pow 2 exponent.toNat)

/-- The magnitude nearest `num / den`, for a positive `den`, the even one of two. The exponent
is not bounded above; `isFinite` tells whether the result is in range. -/
def ofRatio (num den : Nat) : Magnitude :=
  if num = 0 then zero
  else
    let guess : Int := (Nat.log2 num : Int) - (Nat.log2 den : Int) - 53
    let (n, d) := unscaled num den guess
    let exponent := max (if n < d * Nat.pow 2 53 then guess else guess + 1) leastExponent
    let (n, d) := unscaled num den exponent
    let significand := roundHalfEven n d
    if significand = Nat.pow 2 53 then ⟨Nat.pow 2 52, exponent + 1⟩
    else ⟨significand, exponent⟩

/-- The exact value as a numerator and a denominator. -/
def ratio (x : Magnitude) : Nat × Nat :=
  (x.significand * Nat.pow 2 x.exponent.toNat, Nat.pow 2 (-x.exponent).toNat)

/-- The rounded product. -/
def mul (x y : Magnitude) : Magnitude :=
  ofRatio (x.ratio.1 * y.ratio.1) (x.ratio.2 * y.ratio.2)

/-- The rounded quotient by a positive magnitude. -/
def div (x y : Magnitude) : Magnitude :=
  ofRatio (x.ratio.1 * y.ratio.2) (x.ratio.2 * y.ratio.1)

/-- The magnitude nearest a power of ten. -/
def powerOfTen (k : Nat) : Magnitude :=
  ofRatio (Nat.pow 10 k) 1

/-- The greatest power of ten that is finite. -/
def greatestPower : Nat := 308

/-- Divides by `10 ^ k`, in steps of the greatest power of ten. -/
def scaledDown (x : Magnitude) (k : Nat) : Magnitude :=
  if k ≤ greatestPower then x.div (powerOfTen k)
  else if x.isZero then zero
  else scaledDown (x.div (powerOfTen greatestPower)) (k - greatestPower)
termination_by k
decreasing_by simp only [greatestPower] at *; omega

/-- `digits · 10 ^ exponent`, or `none` if that is out of range. -/
def scaled? (digits : Nat) (exponent : Int) : Option Magnitude :=
  let x := ofRatio digits 1
  if exponent < 0 then some (x.scaledDown (-exponent).toNat)
  else if exponent ≤ greatestPower then
    let y := x.mul (powerOfTen exponent.toNat)
    if y.isFinite then some y else none
  else if x.isZero then some zero
  else none

end Magnitude

end ContractBindings
