import Mathlib.Algebra.Group.Nat.Defs
import PiecewiseLang.Binary64.Arithmetic

/-! Rounding to the grid of finite numbers. The nearest number depends on the value of a
ratio only and not on how the ratio is written, and a number on the grid is its own nearest
one. -/
namespace PiecewiseLang

namespace Binary64

theorem divideHalfEven_mul_right (positive : 0 < k) (numerator denominator : Nat) :
    divideHalfEven (numerator * k) (denominator * k) = divideHalfEven numerator denominator := by
  have double : 2 * (numerator % denominator * k) = 2 * (numerator % denominator) * k :=
    (Nat.mul_assoc ..).symm
  simp only [divideHalfEven, Nat.mul_div_mul_right _ _ positive, Nat.mul_mod_mul_right, double,
    Nat.mul_lt_mul_right positive]

theorem divideHalfEven_mul (positive : 0 < denominator) (quotient : Nat) :
    divideHalfEven (quotient * denominator) denominator = quotient := by
  simp [divideHalfEven, Nat.mul_div_cancel _ positive, positive]

theorem divideHalfEven_small (small : 2 * numerator < denominator) :
    divideHalfEven numerator denominator = 0 := by
  have below : numerator < denominator := by omega
  simp [divideHalfEven, Nat.mod_eq_of_lt below, Nat.div_eq_of_lt below, small]

theorem nearestIndex_mul_right (positive : 0 < k) (numerator denominator : Nat) :
    nearestIndex (numerator * k) (denominator * k) = nearestIndex numerator denominator := by
  simp only [nearestIndex, Nat.mul_div_mul_right _ _ positive]
  rw [Nat.mul_right_comm, divideHalfEven_mul_right positive]

theorem nearestIndex_small (small : 2 * numerator < denominator) :
    nearestIndex numerator denominator = 0 := by
  have none : numerator / denominator = 0 := Nat.div_eq_of_lt (by omega)
  simp [nearestIndex, none, divideHalfEven_small small]

theorem fractionCount_eq : fractionCount = 2 ^ 52 := rfl

/-- The exponent stands as a variable, so that the power is not computed. -/
theorem oneUnits_eq (count : places = 1074) : oneUnits = 2 ^ places :=
  congrArg (Nat.pow 2) count.symm

/-- A significand of 53 bits moved up by `shift` bits. -/
theorem log2_significand (fraction shift : Nat) (small : fraction < fractionCount) :
    ((fractionCount + fraction) * 2 ^ shift).log2 = 52 + shift := by
  have positive : 0 < 2 ^ shift := Nat.two_pow_pos shift
  have significand : 0 < fractionCount + fraction := by rw [fractionCount_eq]; omega
  rw [Nat.log2_eq_iff (Nat.ne_of_gt (Nat.mul_pos significand positive))]
  rw [fractionCount_eq] at small ⊢
  constructor
  · rw [Nat.pow_add]
    exact Nat.mul_le_mul_right _ (Nat.le_add_right ..)
  · rw [Nat.add_right_comm, Nat.pow_add]
    exact Nat.mul_lt_mul_of_pos_right (by omega) positive

/-- Every magnitude is the nearest one to its own size. -/
theorem nearestIndex_magnitudeSize (index : Nat) : nearestIndex (magnitudeSize index) 1 = index := by
  by_cases subnormal : index < fractionCount
  · have short : index.log2 - 52 = 0 := by
      have : index.log2 ≤ 52 := by
        by_cases zero : index = 0
        · simp [zero]
        · exact Nat.le_of_lt ((Nat.log2_lt zero).mpr subnormal)
      omega
    have exact := divideHalfEven_mul Nat.one_pos index
    rw [Nat.mul_one] at exact
    simp [nearestIndex, magnitudeSize, subnormal, short, exact]
  · have significand := log2_significand (index % fractionCount) (index / fractionCount - 1)
      (Nat.mod_lt _ (by decide))
    have exponent : 1 ≤ index / fractionCount :=
      (Nat.le_div_iff_mul_le (by decide)).mpr (by omega)
    simp only [nearestIndex, magnitudeSize, subnormal, if_false, Nat.div_one, Nat.one_mul,
      Nat.pow_eq, significand, Nat.add_sub_cancel_left]
    rw [divideHalfEven_mul (Nat.two_pow_pos _)]
    have split := Nat.div_add_mod' index fractionCount
    have shifted : (index / fractionCount - 1) * fractionCount + fractionCount =
        index / fractionCount * fractionCount := by
      rw [← Nat.succ_mul, Nat.succ_eq_add_one, Nat.sub_add_cancel exponent]
    omega

end Binary64

namespace Double

open Binary64

theorem ofRatio_congr (denominators : 0 < b ∧ 0 < d) (same : a * d = c * b) (negative : Bool) :
    ofRatio negative a b = ofRatio negative c d := by
  have index : nearestIndex a b = nearestIndex c d := by
    rw [← nearestIndex_mul_right denominators.2 a b, ← nearestIndex_mul_right denominators.1 c d,
      same, Nat.mul_comm b d]
  simp only [ofRatio, index]

theorem ofRatio_size (x : Binary64) : ofRatio x.negative x.size 1 = .finite x := by
  have exact : nearestIndex x.size 1 = x.magnitude := nearestIndex_magnitudeSize _
  simp [ofRatio, exact]

theorem ofRatio_small (small : 2 * numerator < denominator) (negative : Bool) :
    ofRatio negative numerator denominator = .finite (signedZero negative) := by
  simp [ofRatio, nearestIndex_small small, signedZero]

theorem ofRatio_negative {negative : Bool}
    (rounded : ofRatio negative numerator denominator = .finite x) :
    x.negative = negative := by
  simp only [ofRatio] at rounded
  split at rounded
  · cases rounded; rfl
  · cases rounded

end Double

end PiecewiseLang
