import Mathlib.Algebra.Order.Field.Power
import Mathlib.Algebra.Order.Field.Rat
import PiecewiseLang.Proofs.Binary64.Rounding

/-! The rational number that a binary64 encoding stands for. A number is read off the fields of
its encoding, as a significand times a power of two; the count of grid units, by which numbers
are computed with and compared, is this rational on another scale. -/
namespace PiecewiseLang.Binary64

/-- The size of the number with the given exponent field and fraction. In the lowest field the
significand has no leading bit, and the exponent is that of the field above it. -/
def fieldsSize (exponent fraction : Nat) : ℚ :=
  if exponent = 0 then fraction * 2 ^ (-1074 : ℤ)
  else (fractionCount + fraction) * 2 ^ ((exponent : ℤ) - 1075)

/-- The rational number that an encoding stands for. -/
def rational (x : Binary64) : ℚ :=
  let size := fieldsSize (x.magnitude / fractionCount) (x.magnitude % fractionCount)
  if x.negative then -size else size

theorem magnitudeSize_eq (index : Nat) : (magnitudeSize index : ℚ) =
    fieldsSize (index / fractionCount) (index % fractionCount) * 2 ^ (1074 : ℤ) := by
  unfold magnitudeSize fieldsSize
  by_cases subnormal : index < fractionCount
  · rw [if_pos subnormal, if_pos (Nat.div_eq_of_lt subnormal), Nat.mod_eq_of_lt subnormal,
      mul_assoc, ← zpow_add₀ two_ne_zero, neg_add_cancel, zpow_zero, mul_one]
  · have exponent : 1 ≤ index / fractionCount :=
      (Nat.le_div_iff_mul_le (by decide)).mpr (by omega)
    have shift : ((index / fractionCount : Nat) : ℤ) - 1075 + 1074 =
        (index / fractionCount - 1 : Nat) := by omega
    rw [if_neg subnormal, if_neg (Nat.ne_of_gt exponent), mul_assoc, ← zpow_add₀ two_ne_zero,
      shift, zpow_natCast, Nat.cast_mul, Nat.cast_add, Nat.pow_eq, Nat.cast_pow, Nat.cast_ofNat]

/-- The units of a number are its value on the scale of the grid. -/
theorem units_eq (x : Binary64) : (x.units : ℚ) = x.rational * 2 ^ (1074 : ℤ) := by
  unfold units rational
  split
  · rw [Int.cast_neg, Int.cast_natCast, size, magnitudeSize_eq, neg_mul]
  · rw [Int.cast_natCast, size, magnitudeSize_eq]

theorem oneUnits_cast : (oneUnits : ℚ) = 2 ^ (1074 : ℤ) := by
  obtain ⟨places, count⟩ : ∃ places : Nat, places = 1074 := ⟨_, rfl⟩
  have cast : (1074 : ℤ) = places := by omega
  rw [oneUnits_eq count, cast, zpow_natCast, Nat.cast_pow, Nat.cast_ofNat]

theorem oneUnits_ne_zero : (oneUnits : ℚ) ≠ 0 := by
  rw [oneUnits_cast]
  exact zpow_ne_zero _ two_ne_zero

theorem rational_eq_div (x : Binary64) : x.rational = x.units / oneUnits := by
  rw [units_eq, oneUnits_cast, mul_div_cancel_right₀ _ (zpow_ne_zero _ two_ne_zero)]

end PiecewiseLang.Binary64
