import Mathlib.Algebra.Order.Group.Nat
import Mathlib.Data.Nat.Init
import Sparql.Number.Reading
import Sparql.Value.Basic

/-!
# Numbers beyond the limits

The largest finite double is `2 ^ 1024 - 2 ^ 971`. An integer is rounded to an infinity from half a unit of its
last place above it, where the tie goes to the even mantissa. An integer is not written from `10 ^ 4300` on.
-/

namespace Sparql

/-! ## Doubles -/

namespace Double

variable {n : Nat}

private theorem two_pow_split {whole first second : Nat} (isSum : whole = first + second) :
    2 ^ whole = 2 ^ first * 2 ^ second := by
  rw [isSum, Nat.pow_add]

private theorem two_pow_le {exponent first second : Nat} (isLess : exponent ≤ first + second) :
    2 ^ exponent ≤ 2 ^ first * 2 ^ second := by
  rw [← Nat.pow_add]
  exact Nat.pow_le_pow_right (by decide) isLess

private theorem le_two_pow {exponent first second : Nat} (isLess : first + second ≤ exponent) :
    2 ^ first * 2 ^ second ≤ 2 ^ exponent := by
  rw [← Nat.pow_add]
  exact Nat.pow_le_pow_right (by decide) isLess

private theorem not_fits_below (isLarge : 53 ≤ n.log2) (notZero : n ≠ 0) :
    ¬ n * Nat.pow 2 (-((n.log2 : Int) - 53)).toNat < Nat.pow 2 53 * Nat.pow 2 ((n.log2 : Int) - 53).toNat := by
  have down : (-((n.log2 : Int) - 53)).toNat = 0 := by omega
  have up : 53 + ((n.log2 : Int) - 53).toNat = n.log2 := by omega
  change ¬ n * 2 ^ _ < 2 ^ 53 * 2 ^ _
  rw [down, ← Nat.pow_add, up, Nat.pow_zero, Nat.mul_one, Nat.not_lt]
  exact Nat.log2_self_le notZero

private theorem fits_above (isLarge : 53 ≤ n.log2) :
    n * Nat.pow 2 (-((n.log2 : Int) - 53 + 1)).toNat < Nat.pow 2 53 * Nat.pow 2 ((n.log2 : Int) - 53 + 1).toNat := by
  have down : (-((n.log2 : Int) - 53 + 1)).toNat = 0 := by omega
  have up : 53 + ((n.log2 : Int) - 53 + 1).toNat = n.log2 + 1 := by omega
  change n * 2 ^ _ < 2 ^ 53 * 2 ^ _
  rw [down, ← Nat.pow_add, up, Nat.pow_zero, Nat.mul_one]
  exact Nat.lt_log2_self

/-- The mantissa of a large integer begins at its first bit. -/
theorem exponentOf_of_large (isLarge : 53 ≤ n.log2) : exponentOf n 1 = n.log2 - 52 := by
  have notZero : n ≠ 0 := by
    rintro rfl
    simp at isLarge
  have notBelow := not_fits_below isLarge notZero
  have above := fits_above isLarge
  have noShift : Nat.log2 1 = 0 := by decide
  simp only [exponentOf, noShift, Int.ofNat_zero, Int.sub_zero, Nat.one_mul, decide_eq_true_eq]
  rw [if_neg notBelow, if_pos above]
  omega

theorem exponentOf_le (isSmall : n.log2 ≤ 1021) : exponentOf n 1 ≤ 970 := by
  have noShift : Nat.log2 1 = 0 := by decide
  simp only [exponentOf, noShift]
  split
  · omega
  · split <;> omega

/-- Below the next power of two, the mantissa is rounded up to one digit more from half a unit of its last place
on. -/
theorem roundScaled_eq_top {exponent : Nat} (isBelow : n < 2 ^ 54 * 2 ^ exponent) :
    roundScaled n 1 ((exponent + 1 : Nat) : Int) = Nat.pow 2 53 ↔ 2 ^ 54 * 2 ^ exponent - 2 ^ exponent ≤ n := by
  have unit : Nat.pow 2 ((exponent + 1 : Nat) : Int).toNat = 2 ^ exponent * 2 := Nat.pow_succ 2 exponent
  have noShift : (-((exponent + 1 : Nat) : Int)).toNat = 0 := by omega
  have one : Nat.pow 2 0 = 1 := rfl
  simp only [roundScaled, unit, noShift, one, Nat.mul_one, Nat.one_mul]
  have positive : 0 < 2 ^ exponent := Nat.two_pow_pos exponent
  generalize 2 ^ exponent = half at isBelow positive ⊢
  have parts := Nat.div_add_mod n (half * 2)
  have remainder := Nat.mod_lt n (show 0 < half * 2 by omega)
  have quotientBound : n / (half * 2) < 2 ^ 53 := by
    rw [Nat.div_lt_iff_lt_mul (by omega)]
    omega
  generalize n / (half * 2) = quotient at parts quotientBound ⊢
  generalize n % (half * 2) = rest at parts remainder ⊢
  change _ = 2 ^ 53 ↔ _
  have cases : quotient = 2 ^ 53 - 1 ∨ quotient ≤ 2 ^ 53 - 2 := by omega
  rcases cases with rfl | isLess
  · -- the largest mantissa is odd, so the tie goes up
    split <;> omega
  · have bound : half * 2 * quotient ≤ half * 2 * (2 ^ 53 - 2) := Nat.mul_le_mul_left _ isLess
    constructor
    · split <;> omega
    · omega

/-- A number is beyond every double if its exponent is too large, or becomes so when the mantissa is rounded up. -/
theorem isInfinite_ofRatio {negative : Bool} (notZero : n ≠ 0) :
    (ofRatio negative n 1).isInfinite = true ↔
      971 < exponentOf n 1 ∨ exponentOf n 1 = 971 ∧ roundScaled n 1 971 = Nat.pow 2 53 := by
  unfold ofRatio
  rw [if_neg notZero]
  generalize exponentOf n 1 = exponent
  simp only
  by_cases isTop : roundScaled n 1 exponent = Nat.pow 2 53
  · rw [if_pos isTop]
    rcases lt_trichotomy exponent 971 with isLess | rfl | isGreater
    · simp [isInfinite, show ¬ 971 < exponent + 1 by omega, show ¬ 971 < exponent by omega, isLess.ne]
    · simpa [isInfinite] using isTop
    · simp [isInfinite, show 971 < exponent + 1 by omega, isGreater]
  · rw [if_neg isTop]
    by_cases isGreater : 971 < exponent
    · simp [isInfinite, isGreater]
    · have notTop : ¬ (exponent = 971 ∧ roundScaled n 1 971 = Nat.pow 2 53) := by
        rintro ⟨rfl, top⟩
        exact isTop top
      simp [isInfinite, isGreater, notTop]

/-- An integer has no finite double near it exactly if it is this far from zero. -/
theorem isInfinite_ofInt {value : Int} : (ofInt value).isInfinite = true ↔ 2 ^ 1024 - 2 ^ 970 ≤ value.natAbs := by
  unfold ofInt
  generalize value.natAbs = n
  have top : (2 : Nat) ^ 1024 = 2 ^ 54 * 2 ^ 970 := two_pow_split rfl
  have positive := Nat.two_pow_pos 970
  rw [top]
  by_cases isZero : n = 0
  · subst isZero
    exact iff_of_false (by simp [ofRatio, zero, isInfinite]) (by omega)
  rw [isInfinite_ofRatio isZero]
  have lower := Nat.log2_self_le isZero
  have upper := Nat.lt_log2_self (n := n)
  rcases lt_trichotomy n.log2 1023 with isSmall | isLast | isLarge
  · have next : 2 ^ (n.log2 + 1) ≤ 2 ^ 53 * 2 ^ 970 := two_pow_le (by omega)
    have exponent : exponentOf n 1 ≤ 970 := by
      rcases Nat.lt_or_ge n.log2 1022 with isSmaller | isLarge
      · exact exponentOf_le (by omega)
      · rw [exponentOf_of_large (by omega)]
        omega
    exact iff_of_false (by omega) (by omega)
  · have exponent : exponentOf n 1 = ((970 + 1 : Nat) : Int) := by
      rw [exponentOf_of_large (by omega)]
      omega
    rw [← roundScaled_eq_top (upper.trans_le (two_pow_le (by omega))), exponent]
    simp
  · have exponent := exponentOf_of_large (show 53 ≤ n.log2 by omega)
    have above : 2 ^ 54 * 2 ^ 970 ≤ 2 ^ n.log2 := le_two_pow (by omega)
    exact iff_of_true (.inl (by omega)) (by omega)

end Double

/-! ## Numerals -/

namespace Number

private theorem two_pow_le_ten_pow {digits : Nat} (enough : 4 ≤ digits) : 2 ^ (3 * digits + 1) ≤ 10 ^ digits := by
  induction digits, enough using Nat.le_induction with
  | base => decide
  | succ digits _ ih =>
      calc 2 ^ (3 * (digits + 1) + 1) = 2 ^ (3 * digits + 1) * 2 ^ 3 := by rw [← Nat.pow_add]; congr 1
        _ ≤ 10 ^ digits * 10 := Nat.mul_le_mul ih (by decide)
        _ = 10 ^ (digits + 1) := (Nat.pow_succ 10 digits).symm

/-- The size in bits only tells short integers faster. -/
theorem isLong_iff {value : Int} : isLong value = true ↔ 10 ^ maxDigits ≤ value.natAbs := by
  unfold isLong
  have enough : 4 ≤ maxDigits := by decide
  generalize maxDigits = digits at enough ⊢
  simp only [Bool.and_eq_true, decide_eq_true_eq]
  change _ ∧ 10 ^ digits ≤ _ ↔ 10 ^ digits ≤ _
  refine and_iff_right_of_imp fun isLong => ?_
  have bits := (two_pow_le_ten_pow enough).trans isLong
  exact (Nat.le_log2 (Nat.two_pow_pos _ |>.trans_le bits).ne').mpr bits

end Number

/-- An infinity, of either kind of numbers. -/
def Value.IsInfinity (value : Value) : Prop :=
  ∃ negative, value = .float (.infinite negative) ∨ value = .decimal (.infinite negative)

end Sparql
