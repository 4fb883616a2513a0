import Mathlib.Algebra.Order.Field.Basic
import PiecewiseLang.Proofs.Binary64.Nearest
import PiecewiseLang.Proofs.Binary64.ReadBack

/-! The rational number that a decimal stands for. A decimal reads back as a number if its rational
is rounded to it, and of the decimals that do so the shortest has the fewest digits, of those with
as few it is the nearest, and of two equally near the even one. -/
namespace PiecewiseLang

theorem Double.ofRatio_eq_finite {x : Binary64} : ofRatio x.negative numerator denominator =
    .finite x ↔ Binary64.nearestIndex numerator denominator = x.magnitude := by
  unfold ofRatio
  dsimp only
  split
  case isTrue inRange =>
    constructor
    · intro rounded
      exact congrArg (fun y : Binary64 => (y.magnitude : Nat)) (Double.finite.inj rounded)
    · intro index
      have same : (⟨_, inRange⟩ : Fin magnitudeCount) = x.magnitude := Fin.ext index
      rw [same]
  case isFalse past =>
    refine iff_of_false nofun fun index => past ?_
    rw [index]
    exact x.magnitude.isLt

namespace Decimal

variable {d : Decimal}

/-- The rational number a decimal stands for. -/
def rational (d : Decimal) : ℚ := d.significand * 10 ^ d.exponent

theorem rational_nonneg (d : Decimal) : 0 ≤ d.rational := by
  exact mul_nonneg (Nat.cast_nonneg _) (zpow_nonneg (by norm_num) _)

theorem rational_eq_div (d : Decimal) : d.rational = d.numerator / d.denominator := by
  rw [rational, numerator, denominator]
  rcases Int.le_total 0 d.exponent with whole | fractional
  · have none : (-d.exponent).toNat = 0 := by omega
    have power : (10 : ℚ) ^ d.exponent = 10 ^ d.exponent.toNat := by
      rw [← zpow_natCast, Int.toNat_of_nonneg whole]
    rw [none, power]
    simp
  · have none : d.exponent.toNat = 0 := by omega
    have power : (10 : ℚ) ^ d.exponent = (10 ^ (-d.exponent).toNat)⁻¹ := by
      rw [← zpow_natCast, ← zpow_neg, Int.toNat_of_nonneg (by omega), Int.neg_neg]
    rw [none, power, div_eq_mul_inv]
    simp

theorem overflows (some : d.significand ≠ 0) (large : (exponentBound : Int) < d.exponent) :
    magnitudeCount ≤ Binary64.nearestTo d.rational := by
  have limit : magnitudeCount ≤ Binary64.nearestTo ((10 ^ exponentBound : Nat) / (1 : Nat)) := by
    rw [Binary64.nearestTo_div _ Nat.one_pos]
    decide +kernel
  refine limit.trans (Binary64.nearestTo_mono (div_nonneg (Nat.cast_nonneg _) (Nat.cast_nonneg _)) ?_)
  calc ((10 ^ exponentBound : Nat) / (1 : Nat) : ℚ) = 1 * 10 ^ (exponentBound : Int) := by
        rw [Nat.cast_one, div_one, one_mul, Nat.cast_pow, Nat.cast_ofNat, zpow_natCast]
    _ ≤ d.significand * 10 ^ d.exponent := by
        refine mul_le_mul ?_ ?_ (zpow_nonneg (by norm_num) _) (Nat.cast_nonneg _)
        · exact Nat.one_le_cast.mpr (Nat.one_le_iff_ne_zero.mpr some)
        · exact zpow_le_zpow_right₀ (by norm_num) large.le

/-- A decimal reads back as a number exactly when its value is rounded to the magnitude. -/
theorem nearest_iff {x : Binary64} :
    d.nearest x.negative = .finite x ↔ Binary64.nearestTo d.rational = x.magnitude := by
  by_cases bounded : d.significand = 0 ∨ d.exponent ≤ exponentBound
  · rw [nearest_eq_ofRatio d _ bounded, rational_eq_div, Binary64.nearestTo_div _ d.denominator_pos]
    exact Double.ofRatio_eq_finite
  · obtain ⟨some, large⟩ := not_or.mp bounded
    have large : (exponentBound : Int) < d.exponent := not_le.mp large
    have overflow : d.nearest x.negative = .infinite x.negative := by
      rw [nearest, if_neg some, if_pos large]
    rw [overflow]
    refine iff_of_false nofun fun same => ?_
    have inRange := x.magnitude.isLt
    have past := overflows some large
    omega

/-- Whether so many digits are enough for the significand, zeros at the end being left to the
exponent. -/
def Fits (digits : Nat) (d : Decimal) : Prop :=
  ∃ other : Decimal, other.significand < 10 ^ digits ∧ other.rational = d.rational

theorem Fits.mono (fits : d.Fits digits) (less : digits ≤ more) : d.Fits more := by
  obtain ⟨other, short, same⟩ := fits
  exact ⟨other, Nat.lt_of_lt_of_le short (Nat.pow_le_pow_right (by decide) less), same⟩

/-- A decimal other than zero has a number of digits that is just enough. -/
theorem exists_fits_succ (some : d.rational ≠ 0) : ∃ digits, d.Fits (digits + 1) ∧ ¬d.Fits digits := by
  by_contra none
  rw [not_exists] at none
  have never (digits : Nat) : ¬d.Fits digits := by
    induction digits with
    | zero =>
      rintro ⟨other, short, same⟩
      rw [← same, rational, Nat.lt_one_iff.mp short, Nat.cast_zero, zero_mul] at some
      exact some rfl
    | succ digits ih => exact fun fits => none digits ⟨fits, ih⟩
  exact never d.significand ⟨d, Nat.lt_pow_self (by decide), rfl⟩

end Decimal

/-- Whether two values stand next to each other on the grid of some power of ten, the first one at
an even place. -/
def EvenBeside (p q : ℚ) : Prop := ∃ (m n : Nat) (exponent : ℤ), p = m * 10 ^ exponent ∧
  q = n * 10 ^ exponent ∧ (m = n + 1 ∨ n = m + 1) ∧ m % 2 = 0

theorem EvenBeside.distance {p q : ℚ} {m n : Nat} {exponent : ℤ} (first : p = m * 10 ^ exponent)
    (second : q = n * 10 ^ exponent) (beside : m = n + 1 ∨ n = m + 1) : |p - q| = 10 ^ exponent := by
  have positive : (0 : ℚ) < 10 ^ exponent := zpow_pos (by norm_num) _
  rw [first, second, ← sub_mul, abs_mul, abs_of_pos positive]
  rcases beside with rfl | rfl <;> simp

/-- Of two neighbours only one is even. -/
theorem EvenBeside.not_symm {p q : ℚ} (even : EvenBeside p q) : ¬EvenBeside q p := by
  obtain ⟨m, n, exponent, first, second, beside, even⟩ := even
  rintro ⟨n', m', exponent', second', first', beside', even'⟩
  have same : exponent = exponent' := by
    refine zpow_right_injective₀ (a := (10 : ℚ)) (by norm_num) (by norm_num) ?_
    simp only
    rw [← distance first second beside, ← distance second' first' beside', abs_sub_comm]
  have nonzero : (10 : ℚ) ^ exponent ≠ 0 := zpow_ne_zero _ (by norm_num)
  rw [← same, second, mul_left_inj' nonzero, Nat.cast_inj] at second'
  rw [← same, first, mul_left_inj' nonzero, Nat.cast_inj] at first'
  omega

/-- Whether a value is preferred to another one as an approximation of a target. It is nearer to the
target, or both are one, or they are equally near and it is the even one of two neighbours. -/
def Preferred (target p q : ℚ) : Prop :=
  |p - target| < |q - target| ∨ q = p ∨ |p - target| = |q - target| ∧ EvenBeside p q

namespace Preferred

variable {target p q : ℚ}

theorem abs_le (preferred : Preferred target p q) : |p - target| ≤ |q - target| := by
  rcases preferred with nearer | same | ⟨tie, -⟩
  · exact nearer.le
  · rw [same]
  · exact tie.le

theorem le (preferred : Preferred target p q) (above : target ≤ q) : p ≤ q := by
  have nearer := (le_abs_self _).trans preferred.abs_le
  rw [abs_of_nonneg (sub_nonneg.mpr above)] at nearer
  exact (sub_le_sub_iff_right target).mp nearer

/-- Two values that are preferred to each other are one. -/
theorem antisymm (first : Preferred target p q) (second : Preferred target q p) : p = q := by
  have near := first.abs_le
  have far := second.abs_le
  rcases first with nearer | same | ⟨-, even⟩
  · exact absurd nearer (not_lt.mpr far)
  · exact same.symm
  rcases second with nearer | same | ⟨-, other⟩
  · exact absurd nearer (not_lt.mpr near)
  · exact same
  · exact absurd other even.not_symm

end Preferred

namespace Binary64

variable {x : Binary64} {d other : Decimal}

/-- Among the decimals that read back as `x`, `d` has the fewest digits, of those with as few it is
the nearest to the size of `x`, and of two equally near the even one. -/
structure IsShortest (x : Binary64) (d : Decimal) : Prop where
  readsBack : d.nearest x.negative = .finite x
  fewest : ∀ (other : Decimal) (digits : Nat), other.nearest x.negative = .finite x →
    other.Fits digits → d.Fits digits
  closest : ∀ other : Decimal, other.nearest x.negative = .finite x →
    (∀ digits, d.Fits digits → other.Fits digits) → Preferred |x.rational| d.rational other.rational

theorem IsShortest.unique (first : x.IsShortest d) (second : x.IsShortest other) :
    d.rational = other.rational := by
  have short := second.closest d first.readsBack fun digits => first.fewest other digits second.readsBack
  have long := first.closest other second.readsBack fun digits => second.fewest d digits first.readsBack
  exact long.antisymm short

end Binary64

end PiecewiseLang
