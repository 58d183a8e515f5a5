import Sparql.Value.Basic

/-!
# Keys of mappings

Which values are the same key. Numbers of any kind are compared by value, so `1`, `1.0` and `true` are one
key; a text and a term never are. Lists and mappings cannot be keys.
-/

namespace Sparql.Value

/-- The exact value of a number, as a fraction of a power of ten and a power of two. -/
inductive Magnitude where
  /-- `numerator / denominator` in lowest terms. -/
  | ratio (numerator : Int) (denominator : Nat)
  | infinite (negative : Bool)
deriving DecidableEq

/-- A fraction in lowest terms. -/
def Magnitude.ofRatio (numerator : Int) (denominator : Nat) : Magnitude :=
  let divisor := Nat.gcd numerator.natAbs denominator
  .ratio (numerator / divisor) (denominator / divisor)

/-- The exact value of a number; what is no number has none. -/
def magnitude? : Value → Option Magnitude
  | .bool value => some (.ratio (if value then 1 else 0) 1)
  | .int value => some (.ratio value 1)
  | .float (.finite negative mantissa exponent) =>
    let top : Int := mantissa * Nat.pow 2 exponent.toNat
    some (.ofRatio (if negative then -top else top) (Nat.pow 2 (-exponent).toNat))
  | .float (.infinite negative) => some (.infinite negative)
  | .decimal (.finite negative coefficient exponent) =>
    let top : Int := coefficient * Nat.pow 10 exponent.toNat
    some (.ofRatio (if negative then -top else top) (Nat.pow 10 (-exponent).toNat))
  | .decimal (.infinite negative) => some (.infinite negative)
  | _ => none

mutual

/-- Whether two values are the same key. -/
def sameKey : Value → Value → Bool
  | .null, .null => true
  | .text a, .text b => a == b
  | .bytes a, .bytes b => a == b
  | .date a, .date b => a == b
  | .time a, .time b => a.same b
  | .moment a, .moment b => a.same b
  | .term a, .term b => a.same b
  | .tuple a, .tuple b => sameKeys a b
  | .pattern a, .pattern b => a.same b
  | .object a _, .object b _ => a == b
  | .answer a _ _, .answer b _ _ => a.display.toOption == b.display.toOption
  | a, b =>
    match a.magnitude?, b.magnitude? with
    | some x, some y => x == y
    | _, _ => false

/-- Whether two lists have the same keys in the same places. -/
def sameKeys : List Value → List Value → Bool
  | [], [] => true
  | a :: as, b :: bs => sameKey a b && sameKeys as bs
  | _, _ => false

end

mutual

/-- Whether the value can be a key. -/
def isKey : Value → Bool
  | .list _ | .map _ | .set _ | .branch _ | .object (.group _) _ => false
  | .tuple items => areKeys items
  | .decimal (.nan _ signaling _) => !signaling
  | _ => true

/-- Whether all of the values can be keys. -/
def areKeys : List Value → Bool
  | [] => true
  | value :: rest => isKey value && areKeys rest

end

/-- Entries with one more: an equal key keeps its place and takes the new value. -/
def insertEntry (key value : Value) : List (Value × Value) → List (Value × Value)
  | [] => [(key, value)]
  | (k, v) :: rest => if sameKey k key then (k, value) :: rest else (k, v) :: insertEntry key value rest

/-- The mapping of some entries, unless one of them has no possible key. -/
def ofEntries? (entries : List (Value × Value)) : Option (List (Value × Value)) :=
  entries.foldl
    (fun sum (key, value) => if isKey key then sum.map (insertEntry key value) else none) (some [])

/-- The value under a textual key. -/
def field? (name : String) (entries : List (Value × Value)) : Option Value :=
  (entries.find? fun (key, _) => match key with
    | .text spelling => spelling == name
    | _ => false).map (·.2)

end Sparql.Value
