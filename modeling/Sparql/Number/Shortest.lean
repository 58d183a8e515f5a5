import Sparql.Number.Double

/-!
# Shortest decimals

A double is written with the fewest decimal digits that read back as the same double; of several such
decimals the nearest is taken, of two equally near the one with an even last digit. The search goes through the decimal grids from coarse to fine and tests the
two neighbours of the exact value on each.
-/

namespace Sparql.Double

/-- `left · 10 ^ i < right · 2 ^ j`, or equal if `inclusive`. -/
def scaledBelow (inclusive : Bool) (left : Nat) (i : Int) (right : Nat) (j : Int) : Bool :=
  let x := left * Nat.pow 10 i.toNat * Nat.pow 2 (-j).toNat
  let y := right * Nat.pow 2 j.toNat * Nat.pow 10 (-i).toNat
  if inclusive then x ≤ y else x < y

/-- `left · 2 ^ j < right · 10 ^ i`, or equal if `inclusive`. -/
def scaledAbove (inclusive : Bool) (left : Nat) (j : Int) (right : Nat) (i : Int) : Bool :=
  let x := left * Nat.pow 2 j.toNat * Nat.pow 10 (-i).toNat
  let y := right * Nat.pow 10 i.toNat * Nat.pow 2 (-j).toNat
  if inclusive then x ≤ y else x < y

/-- Whether `digits · 10 ^ place` rounds to `mantissa · 2 ^ exponent`: it lies no further away than half the
gap to the neighbour on its side, ends included exactly for an even mantissa. -/
def readsBack (mantissa : Nat) (exponent : Int) (digits : Nat) (place : Int) : Bool :=
  let narrow := mantissa == Nat.pow 2 52 && exponent > -1074
  let inclusive := mantissa % 2 == 0
  let low := if narrow then 4 * mantissa - 1 else 4 * mantissa - 2
  scaledAbove inclusive low (exponent - 2) digits place
    && scaledBelow inclusive digits place (4 * mantissa + 2) (exponent - 2)

/-- The least `k` with `mantissa · 2 ^ exponent < 10 ^ k`, for a positive mantissa. -/
def scaleOf (mantissa : Nat) (exponent : Int) : Int :=
  let binary : Int := mantissa.log2 + exponent
  let estimate : Int := if binary ≥ 0 then binary * 301029 / 1000000 else binary * 301030 / 1000000
  let above (k : Int) : Bool := scaledAbove false mantissa exponent 1 k
  if above estimate then estimate else if above (estimate + 1) then estimate + 1 else estimate + 2

/-- The digits found on the grids that start at `place`, coarsest first. -/
def searchGrids (mantissa : Nat) (exponent : Int) : Nat → Int → Nat × Int
  | 0, _ => (mantissa * Nat.pow 2 exponent.toNat * Nat.pow 5 (-exponent).toNat, -((-exponent).toNat : Int))
  | grids + 1, place =>
    let below :=
      mantissa * Nat.pow 2 exponent.toNat * Nat.pow 10 (-place).toNat / (Nat.pow 2 (-exponent).toNat * Nat.pow 10 place.toNat)
    let lowFits := readsBack mantissa exponent below place
    let highFits := readsBack mantissa exponent (below + 1) place
    if lowFits && highFits then
      let evenBelow := below % 2 == 0
      if scaledAbove evenBelow (2 * mantissa) exponent (2 * below + 1) place then (below, place)
      else (below + 1, place)
    else if lowFits then (below, place)
    else if highFits then (below + 1, place)
    else searchGrids mantissa exponent grids (place - 1)

/-- The digits of a positive finite double and the power of ten of the last of them. -/
def shortest (mantissa : Nat) (exponent : Int) : Nat × Int :=
  searchGrids mantissa exponent 17 (scaleOf mantissa exponent - 1)

/-- Digits without the zeros at their end, and the power of ten that makes up for them. -/
def stripZeros (digits : List Char) (place : Int) : List Char × Int :=
  let zeros := (digits.reverse.takeWhile (· = '0')).length
  (digits.take (digits.length - zeros), place + zeros)

/-- A signed power of ten with two digits at least. -/
def exponentText (power : Int) : List Char :=
  let digits := Nat.toDigits 10 power.natAbs
  (if power < 0 then '-' else '+') :: (if digits.length < 2 then '0' :: digits else digits)

/-- Digits with a point, the first `point` of them before it. Values from `10 ^ -4` to below `10 ^ 16` stand in
full with one decimal at least; the others have one digit before the point and a power of ten. -/
def layout (digits : List Char) (point : Int) : List Char :=
  if -4 < point ∧ point ≤ 16 then
    if point ≤ 0 then '0' :: '.' :: List.replicate (-point).toNat '0' ++ digits
    else
      let whole := digits.take point.toNat
      let fraction := digits.drop point.toNat
      whole ++ List.replicate (point.toNat - digits.length) '0' ++ '.' :: (if fraction.isEmpty then ['0'] else fraction)
  else
    let fraction := digits.drop 1
    digits.take 1 ++ (if fraction.isEmpty then [] else '.' :: fraction) ++ 'e' :: exponentText (point - 1)

/-- The text of a double. -/
def toText : Double → String
  | .nan => "nan"
  | .infinite negative => if negative then "-inf" else "inf"
  | .finite negative mantissa exponent =>
    let body :=
      if mantissa = 0 then ['0', '.', '0']
      else
        let (value, place) := shortest mantissa exponent
        let (digits, place) := stripZeros (Nat.toDigits 10 value) place
        layout digits (digits.length + place)
    String.ofList (if negative then '-' :: body else body)

end Sparql.Double
