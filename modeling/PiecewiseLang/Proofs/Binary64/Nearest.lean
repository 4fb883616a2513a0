import Mathlib.Data.Nat.Log
import Mathlib.Tactic.Linarith
import Mathlib.Tactic.Ring
import PiecewiseLang.Proofs.Binary64.Dyadic

/-! The nearest number as a function of the rational that is rounded. It does not fall where the
rational rises, so the rationals that are rounded to one number have no gaps between them. -/
namespace PiecewiseLang.Binary64

theorem divideHalfEven_mono (less : a ≤ b) (denominator : Nat) :
    divideHalfEven a denominator ≤ divideHalfEven b denominator := by
  have quotients := Nat.div_le_div_right (c := denominator) less
  rcases Nat.lt_or_eq_of_le quotients with lower | same
  · -- Rounding adds at most one to a quotient.
    have above : divideHalfEven a denominator ≤ a / denominator + 1 := by
      simp only [divideHalfEven]
      split_ifs <;> omega
    have below : b / denominator ≤ divideHalfEven b denominator := by
      simp only [divideHalfEven]
      split_ifs <;> omega
    omega
  · have remainders : a % denominator ≤ b % denominator := by
      have first := Nat.div_add_mod a denominator
      have second := Nat.div_add_mod b denominator
      rw [same] at first
      omega
    simp only [divideHalfEven, same]
    split_ifs <;> omega

/-- A quotient of so many bits is rounded to an index in the range of its exponent. -/
theorem nearestIndex_range (numerator : Nat) (positive : 0 < denominator)
    (spare : (numerator / denominator).log2 - 52 = shift) :
    nearestIndex numerator denominator ≤ (shift + 2) * fractionCount ∧
      (0 < shift → (shift + 1) * fractionCount ≤ nearestIndex numerator denominator) := by
  have scale : 0 < denominator * 2 ^ shift := Nat.mul_pos positive (Nat.two_pow_pos _)
  have power : fractionCount = 2 ^ 52 := rfl
  simp only [nearestIndex, spare, Nat.pow_eq]
  constructor
  · have bits : numerator / denominator < 2 ^ (53 + shift) :=
      Nat.lt_of_lt_of_le Nat.lt_log2_self (Nat.pow_le_pow_right two_pos (by omega))
    have top : numerator ≤ 2 * fractionCount * (denominator * 2 ^ shift) := calc
      numerator ≤ 2 ^ (53 + shift) * denominator := ((Nat.div_lt_iff_lt_mul positive).mp bits).le
      _ = 2 * fractionCount * (denominator * 2 ^ shift) := by rw [power, pow_add]; ring
    have rounded := divideHalfEven_mono top (denominator * 2 ^ shift)
    rw [divideHalfEven_mul scale] at rounded
    linarith
  · intro some
    have nonzero : numerator / denominator ≠ 0 := by
      intro none
      rw [none] at spare
      simp at spare
      omega
    have bits : 2 ^ (52 + shift) ≤ numerator / denominator :=
      le_trans (Nat.pow_le_pow_right two_pos (by omega)) (Nat.log2_self_le nonzero)
    have bottom : fractionCount * (denominator * 2 ^ shift) ≤ numerator := calc
      fractionCount * (denominator * 2 ^ shift) = 2 ^ (52 + shift) * denominator := by
        rw [power, pow_add]; ring
      _ ≤ numerator := (Nat.le_div_iff_mul_le positive).mp bits
    have rounded := divideHalfEven_mono bottom (denominator * 2 ^ shift)
    rw [divideHalfEven_mul scale] at rounded
    linarith

theorem nearestIndex_mono_left (less : a ≤ b) (positive : 0 < denominator) :
    nearestIndex a denominator ≤ nearestIndex b denominator := by
  have quotients := Nat.div_le_div_right (c := denominator) less
  have bits : (a / denominator).log2 ≤ (b / denominator).log2 := by
    rw [Nat.log2_eq_log_two, Nat.log2_eq_log_two]
    exact Nat.log_mono_right quotients
  rcases Nat.lt_or_eq_of_le (Nat.sub_le_sub_right bits 52) with lower | same
  · obtain ⟨top, -⟩ := nearestIndex_range a positive rfl
    obtain ⟨-, bottom⟩ := nearestIndex_range b positive rfl
    refine top.trans (le_trans (Nat.mul_le_mul_right _ ?_) (bottom (by omega)))
    omega
  · simp only [nearestIndex, same]
    exact Nat.add_le_add_left (divideHalfEven_mono less _) _

/-- The nearest index rises with the ratio. -/
theorem nearestIndex_mono (positive : 0 < b ∧ 0 < d) (less : a * d ≤ c * b) :
    nearestIndex a b ≤ nearestIndex c d := by
  rw [← nearestIndex_mul_right positive.2 a b, ← nearestIndex_mul_right positive.1 c d,
    Nat.mul_comm d b]
  exact nearestIndex_mono_left less (Nat.mul_pos positive.1 positive.2)

theorem nearestIndex_le_of_div_le {a b c d : Nat} (positive : 0 < b ∧ 0 < d)
    (less : (a / b : ℚ) ≤ c / d) :
    nearestIndex (a * oneUnits) b ≤ nearestIndex (c * oneUnits) d := by
  rw [div_le_div_iff₀ (Nat.cast_pos.mpr positive.1) (Nat.cast_pos.mpr positive.2)] at less
  have cross : a * d ≤ c * b := by exact_mod_cast less
  refine nearestIndex_mono positive ?_
  calc a * oneUnits * d = a * d * oneUnits := Nat.mul_right_comm ..
    _ ≤ c * b * oneUnits := Nat.mul_le_mul_right _ cross
    _ = c * oneUnits * b := Nat.mul_right_comm ..

/-- The index of the magnitude nearest to a rational number. -/
def nearestTo (q : ℚ) : Nat := nearestIndex (q.num.toNat * oneUnits) q.den

theorem toNat_num_div_den {q : ℚ} (nonneg : 0 ≤ q) : (q.num.toNat / q.den : ℚ) = q := by
  have whole : ((q.num.toNat : Int) : ℚ) = q.num :=
    congrArg _ (Int.toNat_of_nonneg (Rat.num_nonneg.mpr nonneg))
  rw [Int.cast_natCast] at whole
  rw [whole, Rat.num_div_den]

theorem nearestTo_div (a : Nat) {b : Nat} (positive : 0 < b) :
    nearestTo (a / b) = nearestIndex (a * oneUnits) b := by
  have same := toNat_num_div_den (q := a / b) (div_nonneg (Nat.cast_nonneg a) (Nat.cast_nonneg b))
  refine Nat.le_antisymm ?_ ?_
  · exact nearestIndex_le_of_div_le ⟨Rat.den_pos _, positive⟩ same.le
  · exact nearestIndex_le_of_div_le ⟨positive, Rat.den_pos _⟩ same.ge

theorem nearestTo_zero : nearestTo 0 = 0 := by
  have index := nearestTo_div 0 Nat.one_pos
  rw [Nat.cast_zero, zero_div, Nat.zero_mul] at index
  rw [index]
  exact nearestIndex_small (by decide)

theorem nearestTo_mono {p q : ℚ} (nonneg : 0 ≤ p) (less : p ≤ q) : nearestTo p ≤ nearestTo q := by
  refine nearestIndex_le_of_div_le ⟨p.den_pos, q.den_pos⟩ ?_
  rw [toNat_num_div_den nonneg, toNat_num_div_den (nonneg.trans less)]
  exact less

end PiecewiseLang.Binary64
