/-!
Contract: 64-bit binary floating-point values in exact arithmetic.

Owns: the values, rounding of a ratio and of a decimal to the nearest value, truncation to an
integer, and comparison with integers. Every operation is computed on natural numbers and
integers, so it can be reasoned about.

Does not own: the text of a value.
-/

set_option autoImplicit false

namespace PackageStore

/-- A value of the format. A finite one is `significand * 2 ^ exponent`, with a sign. -/
inductive Binary64 where
  | nan
  | infinite (negative : Bool)
  | finite (negative : Bool) (significand : Nat) (exponent : Int)
deriving DecidableEq, Repr, Inhabited

namespace Binary64

/-- The quotient rounded to the nearest natural number, a half going to the even neighbour. -/
def roundHalfEven (numerator denominator : Nat) : Nat :=
  let quotient := numerator / denominator
  let twice := 2 * (numerator % denominator)
  if twice < denominator then quotient
  else if denominator < twice then quotient + 1
  else if quotient % 2 = 0 then quotient
  else quotient + 1

/-- The ratio divided by `2 ^ exponent`, rounded. -/
def significandAt (numerator denominator : Nat) (exponent : Int) : Nat :=
  roundHalfEven (numerator * Nat.pow 2 (-exponent).toNat) (denominator * Nat.pow 2 exponent.toNat)

/-- The value of a significand of at most 53 bits, infinite when the exponent is too large. -/
def pack (negative : Bool) (significand : Nat) (exponent : Int) : Binary64 :=
  let (significand, exponent) :=
    if significand = Nat.pow 2 53 then (Nat.pow 2 52, exponent + 1) else (significand, exponent)
  if 971 < exponent then .infinite negative else .finite negative significand exponent

def zero (negative : Bool) : Binary64 :=
  .finite negative 0 (-1074)

/-- The value nearest to a ratio with a positive denominator. -/
def ofRatio (negative : Bool) (numerator denominator : Nat) : Binary64 :=
  if numerator = 0 then zero negative
  else
    let exponent : Int := max ((numerator.log2 : Int) - denominator.log2 - 53) (-1074)
    let significand := significandAt numerator denominator exponent
    if significand < Nat.pow 2 53 then pack negative significand exponent
    else pack negative (significandAt numerator denominator (exponent + 1)) (exponent + 1)

/-- The number of decimal digits of a natural number, none for zero. -/
def decimalLength (number : Nat) : Nat :=
  if number = 0 then 0 else (Nat.toDigits 10 number).length

/-- The value nearest to `digits * 10 ^ scale`. Scales far outside the format are decided
without computing the power. -/
def ofDecimal (negative : Bool) (digits : Nat) (scale : Int) : Binary64 :=
  let magnitude := decimalLength digits + scale
  if digits = 0 || magnitude < -330 then zero negative
  else if 310 < magnitude then .infinite negative
  else ofRatio negative (digits * Nat.pow 10 scale.toNat) (Nat.pow 10 (-scale).toNat)

/-- The value nearest to an integer. -/
def ofInt (number : Int) : Binary64 :=
  ofRatio (number < 0) number.natAbs 1

/-- The integer part, toward zero. -/
def truncate? : Binary64 → Option Int
  | .finite negative significand exponent =>
      let magnitude := significand * Nat.pow 2 exponent.toNat / Nat.pow 2 (-exponent).toNat
      some (if negative then -(magnitude : Int) else magnitude)
  | _ => none

/-- Whether the value has no fractional part. -/
def isIntegral : Binary64 → Bool
  | .finite _ significand exponent => significand % Nat.pow 2 (-exponent).toNat == 0
  | _ => false

/-- Whether the value is exactly this integer. -/
def equalsInt (value : Binary64) (number : Int) : Bool :=
  value.isIntegral && value.truncate? == some number

/-- Equality of numbers: not-a-number differs from everything and the two zeros agree. -/
def equals : Binary64 → Binary64 → Bool
  | .nan, _ | _, .nan => false
  | .finite _ 0 _, .finite _ 0 _ => true
  | left, right => left == right

/-- Whether the value compares as at most zero. -/
def isAtMostZero : Binary64 → Bool
  | .nan => false
  | .infinite negative => negative
  | .finite negative significand _ => negative || significand == 0

/-- Whether the value compares as greater than zero. -/
def isPositive : Binary64 → Bool
  | .nan => false
  | .infinite negative => !negative
  | .finite negative significand _ => !negative && significand != 0

end Binary64

end PackageStore
