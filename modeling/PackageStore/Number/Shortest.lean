import PackageStore.Number.Binary64

/-!
Contract: the shortest decimal text of a 64-bit floating-point value.

Owns: the choice of digits, the fewest that read back as the value and the nearest of those, and
the layout of the text. A number is written positionally from 0.0001 up to below 10^16.
-/

set_option autoImplicit false

namespace PackageStore.Binary64

/-- `digits * 10 ^ scale`. -/
structure Decimal where
  digits : Nat
  scale : Int
deriving DecidableEq, Repr

/-- A positive magnitude counted in quarters of `2 ^ exponent`, with the ends of the interval of
reals that round to it. The lower half is narrower below a power of two. -/
structure Interval where
  lower : Nat
  middle : Nat
  upper : Nat
  closed : Bool
  quarter : Int
deriving DecidableEq, Repr

def interval (significand : Nat) (exponent : Int) : Interval :=
  let below := if significand = Nat.pow 2 52 && -1074 < exponent then 1 else 2
  { lower := 4 * significand - below
    middle := 4 * significand
    upper := 4 * significand + 2
    closed := significand % 2 == 0
    quarter := exponent - 2 }

/-- `count` quarters on the grid of `10 ^ scale`, as a ratio. -/
def Interval.ratio (range : Interval) (count : Nat) (scale : Int) : Nat × Nat :=
  (count * Nat.pow 2 range.quarter.toNat * Nat.pow 10 (-scale).toNat,
    Nat.pow 2 (-range.quarter).toNat * Nat.pow 10 scale.toNat)

/-- Whether the point `index` of the grid of `10 ^ scale` rounds to the value. -/
def Interval.holds (range : Interval) (index : Nat) (scale : Int) : Bool :=
  let low := range.ratio range.lower scale
  let high := range.ratio range.upper scale
  if range.closed then low.1 ≤ index * low.2 && index * high.2 ≤ high.1
  else low.1 < index * low.2 && index * high.2 < high.1

/-- The neighbour of the value on a grid that rounds to it: the nearer of two, the even one at
equal distance. -/
def Interval.onGrid? (range : Interval) (scale : Int) : Option Nat :=
  let (numerator, denominator) := range.ratio range.middle scale
  let below := numerator / denominator
  match range.holds below scale, range.holds (below + 1) scale with
  | true, true => some (roundHalfEven numerator denominator)
  | true, false => some below
  | false, true => some (below + 1)
  | false, false => none

/-- The position of the decimal point: the value lies in `[10 ^ (p - 1), 10 ^ p)`. -/
def Interval.point (range : Interval) : Int :=
  let (numerator, denominator) := range.ratio range.middle 0
  if denominator ≤ numerator then decimalLength (numerator / denominator)
  else
    let inverse := denominator / numerator
    let length := decimalLength inverse
    if inverse = Nat.pow 10 (length - 1) && denominator % numerator = 0 then 2 - (length : Int)
    else 1 - (length : Int)

/-- The first grid, from coarse to fine, on which a neighbour rounds to the value. -/
def Interval.search (range : Interval) (point : Int) : List Nat → Option Decimal
  | [] => none
  | places :: finer =>
      let scale := point - places
      match range.onGrid? scale with
      | some digits => some { digits, scale }
      | none => range.search point finer

/-- The shortest decimal that reads back as `significand * 2 ^ exponent`. Seventeen digits always
suffice. -/
def shortest (significand : Nat) (exponent : Int) : Decimal :=
  let range := interval significand exponent
  (range.search range.point ((List.range 17).map (· + 1))).getD ⟨significand, 0⟩

/-- The digits without trailing zeros. -/
def significantDigits (digits : Nat) : List Char :=
  ((Nat.toDigits 10 digits).reverse.dropWhile (· == '0')).reverse

/-- The exponent mark with a sign and at least two digits. -/
def exponentText (exponent : Int) : List Char :=
  let digits := Nat.toDigits 10 exponent.natAbs
  'e' :: (if exponent < 0 then '-' else '+') :: List.replicate (2 - digits.length) '0' ++ digits

/-- Digits with the point after `point` of them. -/
def layout (digits : List Char) (point : Int) : List Char :=
  if -4 < point && point ≤ 16 then
    if point ≤ 0 then '0' :: '.' :: List.replicate (-point).toNat '0' ++ digits
    else
      let whole := digits.take point.toNat
      let fraction := digits.drop point.toNat
      whole ++ List.replicate (point.toNat - digits.length) '0' ++ '.' ::
        (if fraction.isEmpty then ['0'] else fraction)
  else
    match digits with
    | [] => []
    | [only] => only :: exponentText (point - 1)
    | first :: rest => first :: '.' :: rest ++ exponentText (point - 1)

/-- The text of a value. -/
def text : Binary64 → String
  | .nan => "nan"
  | .infinite negative => if negative then "-inf" else "inf"
  | .finite negative significand exponent =>
      let sign := if negative then ['-'] else []
      if significand = 0 then String.ofList (sign ++ ['0', '.', '0'])
      else
        let decimal := shortest significand exponent
        let point := (decimalLength decimal.digits : Int) + decimal.scale
        String.ofList (sign ++ layout (significantDigits decimal.digits) point)

end PackageStore.Binary64
