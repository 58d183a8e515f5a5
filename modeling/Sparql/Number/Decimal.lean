import Sparql.Number.Double

/-!
# Decimal numbers

Decimals keep the digits they are written with: `1.50` and `1.5` are equal values with different texts.
There are two texts, one without a power of ten and one that uses a power of ten for very large and very
small values.
-/

namespace Sparql

/-- A decimal `± coefficient · 10 ^ exponent`, an infinity or no number. -/
inductive Decimal where
  | finite (negative : Bool) (coefficient : Nat) (exponent : Int)
  | infinite (negative : Bool)
  | nan (negative signaling : Bool) (payload : Nat)
deriving DecidableEq, Repr

namespace Decimal

/-- A minus sign before the text of a negative value. -/
def signed (negative : Bool) (body : List Char) : String :=
  String.ofList (if negative then '-' :: body else body)

/-- Digits with the point after the first `point` of them, padded with zeros on either side. -/
def pointed (digits : List Char) (point : Int) : List Char :=
  if point ≤ 0 then '0' :: '.' :: List.replicate (-point).toNat '0' ++ digits
  else if point.toNat < digits.length then digits.take point.toNat ++ '.' :: digits.drop point.toNat
  else digits ++ List.replicate (point.toNat - digits.length) '0'

/-- The text of what is not finite. -/
def specialText : Decimal → String
  | .infinite negative => signed negative "Infinity".toList
  | .nan negative signaling payload =>
    signed negative ((if signaling then "sNaN" else "NaN").toList
      ++ (if payload = 0 then [] else Nat.toDigits 10 payload))
  | .finite .. => ""

/-- The text without a power of ten. -/
def plainText : Decimal → String
  | .finite negative coefficient exponent =>
    if coefficient = 0 ∧ 0 < exponent then signed negative ['0']
    else
      let digits := Nat.toDigits 10 coefficient
      signed negative (pointed digits (digits.length + exponent))
  | d => d.specialText

/-- The text with a power of ten where the last digit stands left of the units or the first one far right of
the point. -/
def toText : Decimal → String
  | .finite negative coefficient exponent =>
    let digits := Nat.toDigits 10 coefficient
    let point : Int := digits.length + exponent
    if exponent ≤ 0 ∧ -6 < point then signed negative (pointed digits point)
    else
      let power := point - 1
      let mark := if power < 0 then '-' else '+'
      let fraction := digits.drop 1
      signed negative (digits.take 1 ++ (if fraction.isEmpty then [] else '.' :: fraction)
        ++ 'E' :: mark :: Nat.toDigits 10 power.natAbs)
  | d => d.specialText

/-- Whether the value is zero. -/
def isZero : Decimal → Bool
  | .finite _ coefficient _ => coefficient == 0
  | _ => false

/-- The integer between the value and zero that is nearest to it. -/
def truncate? : Decimal → Option Int
  | .finite negative coefficient exponent =>
    let magnitude : Int := coefficient * Nat.pow 10 exponent.toNat / Nat.pow 10 (-exponent).toNat
    some (if negative then -magnitude else magnitude)
  | _ => none

/-- The nearest double. A signaling value has none. -/
def toDouble? : Decimal → Option Double
  | .finite negative coefficient exponent => some (Double.ofScaled negative coefficient exponent)
  | .infinite negative => some (.infinite negative)
  | .nan _ signaling _ => if signaling then none else some .nan

/-- The integer that the value is exactly. -/
def integer? : Decimal → Option Int
  | .finite negative coefficient exponent =>
    if coefficient = 0 then some 0
    else if 0 ≤ exponent ∨ coefficient % Nat.pow 10 (-exponent).toNat = 0 then
      (Decimal.finite negative coefficient exponent).truncate?
    else none
  | _ => none

end Decimal

end Sparql
