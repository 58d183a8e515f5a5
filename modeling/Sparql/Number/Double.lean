/-!
# Binary floating-point numbers

The values of the 64-bit binary format, as exact numbers `± mantissa · 2 ^ exponent`. Every operation the
library needs rounds an exact quotient to the nearest value, ties to the even mantissa.
-/

namespace Sparql

/-- A double-precision number. A finite one has a mantissa below `2 ^ 53` and an exponent of `-1074` at
least, the lowest that fits its value. -/
inductive Double where
  | nan
  | infinite (negative : Bool)
  | finite (negative : Bool) (mantissa : Nat) (exponent : Int)
deriving DecidableEq, Repr

namespace Double

/-- Zero of the given sign. -/
def zero (negative : Bool) : Double := .finite negative 0 (-1074)

/-- The quotient `numerator / (denominator · 2 ^ exponent)`, rounded to a natural number, ties to even. -/
def roundScaled (numerator denominator : Nat) (exponent : Int) : Nat :=
  let top := numerator * Nat.pow 2 (-exponent).toNat
  let bottom := denominator * Nat.pow 2 exponent.toNat
  let quotient := top / bottom
  let twice := 2 * (top % bottom)
  if twice > bottom ∨ (twice = bottom ∧ quotient % 2 = 1) then quotient + 1 else quotient

/-- The exponent at which the mantissa of a positive quotient has 53 digits, or the lowest exponent. -/
def exponentOf (numerator denominator : Nat) : Int :=
  let estimate : Int := (numerator.log2 : Int) - denominator.log2 - 53
  let fits (exponent : Int) : Bool :=
    numerator * Nat.pow 2 (-exponent).toNat < Nat.pow 2 53 * (denominator * Nat.pow 2 exponent.toNat)
  max (-1074) (if fits estimate then estimate else if fits (estimate + 1) then estimate + 1 else estimate + 2)

/-- The number nearest to a quotient of naturals, the second of which is positive. -/
def ofRatio (negative : Bool) (numerator denominator : Nat) : Double :=
  if numerator = 0 then zero negative
  else
    let exponent := exponentOf numerator denominator
    let mantissa := roundScaled numerator denominator exponent
    let (mantissa, exponent) := if mantissa = Nat.pow 2 53 then (Nat.pow 2 52, exponent + 1) else (mantissa, exponent)
    if exponent > 971 then .infinite negative else .finite negative mantissa exponent

/-- The number nearest to `coefficient · 10 ^ exponent`. -/
def ofScaled (negative : Bool) (coefficient : Nat) (exponent : Int) : Double :=
  if coefficient = 0 then zero negative
  else
    let magnitude : Int := (Nat.toDigits 10 coefficient).length + exponent
    if magnitude > 310 then .infinite negative
    else if magnitude < -330 then zero negative
    else ofRatio negative (coefficient * Nat.pow 10 exponent.toNat) (Nat.pow 10 (-exponent).toNat)

/-- The number nearest to an integer. -/
def ofInt (value : Int) : Double := ofRatio (value < 0) value.natAbs 1

/-- Whether the number is a positive or negative infinity. -/
def isInfinite : Double → Bool
  | .infinite _ => true
  | _ => false

/-- Whether the number is zero, of either sign. -/
def isZero : Double → Bool
  | .finite _ mantissa _ => mantissa == 0
  | _ => false

/-- `x ≤ 0`, which holds of no `nan`. -/
def isNonpositive : Double → Bool
  | .nan => false
  | .infinite negative => negative
  | .finite negative mantissa _ => negative || mantissa == 0

/-- `x < 0`, which holds of no `nan` and of neither zero. -/
def isNegative : Double → Bool
  | .nan => false
  | .infinite negative => negative
  | .finite negative mantissa _ => negative && mantissa != 0

/-- The integer between the number and zero that is nearest to it. -/
def truncate? : Double → Option Int
  | .finite negative mantissa exponent =>
    let magnitude : Int := mantissa * Nat.pow 2 exponent.toNat / Nat.pow 2 (-exponent).toNat
    some (if negative then -magnitude else magnitude)
  | _ => none

/-- The integer that the number is exactly. -/
def integer? (x : Double) : Option Int :=
  x.truncate?.filter fun value => ofInt value == x || (value == 0 && x.isZero)

/-- The number with the other sign. -/
def negate : Double → Double
  | .nan => .nan
  | .infinite negative => .infinite !negative
  | .finite negative mantissa exponent => .finite (!negative) mantissa exponent

/-- The number as a fraction of an integer and a power of two. -/
def fraction? : Double → Option (Int × Nat)
  | .finite negative mantissa exponent =>
    let top : Int := mantissa * Nat.pow 2 exponent.toNat
    some (if negative then -top else top, Nat.pow 2 (-exponent).toNat)
  | _ => none

/-- The number nearest to a product with a positive number. -/
def scale (x : Double) (factor : Nat) : Double :=
  match x, x.fraction? with
  | .finite negative _ _, some (numerator, denominator) =>
    ofRatio negative (numerator.natAbs * factor) denominator
  | _, _ => x

/-- The number nearest to a sum. Zero is positive unless both are negative. -/
def add (x y : Double) : Double :=
  match x, y with
  | .nan, _ | _, .nan => .nan
  | .infinite a, .infinite b => if a = b then .infinite a else .nan
  | .infinite a, _ | _, .infinite a => .infinite a
  | .finite a _ _, .finite b _ _ =>
    match x.fraction?, y.fraction? with
    | some (n, d), some (m, e) =>
      let sum := n * e + m * d
      if sum = 0 then zero (a && b) else ofRatio (sum < 0) sum.natAbs (d * e)
    | _, _ => .nan

end Double

end Sparql
