import Mathlib.Tactic.FieldSimp
import PiecewiseLang.Proofs.Binary64.Decimals

/-! The search for the shortest decimal of a number. On each grid of decimals a neighbour of the
number is found if any point of the grid reads back, and the grids are searched from the coarsest
down, so what is found first has the fewest digits and is the nearest of those with as few. -/
namespace PiecewiseLang

namespace Decimal

variable {d : Decimal}

section Neighbours

variable {passes : Decimal → Bool} {exact scale m : Nat} {exponent : Int}

/-- Of two neighbours that pass the nearer one is chosen, and of two equally near ones the even. -/
theorem neighbour?_cases (found : neighbour? passes exact scale exponent = some d) :
    (d = ⟨exact / scale, exponent⟩ ∧ (passes ⟨exact / scale + 1, exponent⟩ = true →
      2 * (exact % scale) < scale ∨ 2 * (exact % scale) = scale ∧ d.significand % 2 = 0)) ∨
    (d = ⟨exact / scale + 1, exponent⟩ ∧ (passes ⟨exact / scale, exponent⟩ = true →
      scale < 2 * (exact % scale) ∨ 2 * (exact % scale) = scale ∧ d.significand % 2 = 0)) := by
  simp only [neighbour?] at found
  split at found
  case h_1 =>
    split at found
    case isTrue less =>
      cases found
      exact .inl ⟨rfl, fun _ => .inl less⟩
    split at found
    case isTrue more =>
      cases found
      exact .inr ⟨rfl, fun _ => .inl more⟩
    case isFalse notLess notMore =>
      have tie : 2 * (exact % scale) = scale := by omega
      split at found
      case isTrue even =>
        cases found
        exact .inl ⟨rfl, fun _ => .inr ⟨tie, even⟩⟩
      case isFalse odd =>
        cases found
        exact .inr ⟨rfl, fun _ => .inr ⟨tie, by simp only; omega⟩⟩
  case h_2 above =>
    cases found
    exact .inl ⟨rfl, fun passed => by rw [above] at passed; cases passed⟩
  case h_3 below _ =>
    cases found
    exact .inr ⟨rfl, fun passed => by rw [below] at passed; cases passed⟩
  case h_4 => cases found

theorem neighbour?_exponent (found : neighbour? passes exact scale exponent = some d) :
    d.exponent = exponent := by
  rcases neighbour?_cases found with ⟨rfl, -⟩ | ⟨rfl, -⟩ <;> rfl

/-- A neighbour that is found is the nearest of the points of its grid, if those beyond a neighbour
count only where the neighbour passes. -/
theorem neighbour?_nearest (found : neighbour? passes exact scale exponent = some d)
    (positive : 0 < scale) (reached : m ≤ exact / scale ∧ passes ⟨exact / scale, exponent⟩ = true ∨
      exact / scale + 1 ≤ m ∧ passes ⟨exact / scale + 1, exponent⟩ = true) :
    (((d.significand * scale : Nat) : Int) - exact).natAbs <
      (((m * scale : Nat) : Int) - exact).natAbs ∨ m * scale = d.significand * scale ∨
    (((d.significand * scale : Nat) : Int) - exact).natAbs =
      (((m * scale : Nat) : Int) - exact).natAbs ∧
        (d.significand = m + 1 ∨ m = d.significand + 1) ∧ d.significand % 2 = 0 := by
  have whole := Nat.div_add_mod' exact scale
  have excess := Nat.mod_lt exact positive
  rcases neighbour?_cases found with ⟨rfl, chosen⟩ | ⟨rfl, chosen⟩
  · rcases reached with ⟨low, -⟩ | ⟨high, passed⟩
    · have points := Nat.mul_le_mul_right scale low
      simp only
      omega
    · have chosen := chosen passed
      rcases Nat.eq_or_lt_of_le high with next | beyond
      · subst next
        simp only [Nat.add_mul, or_true, true_and] at chosen ⊢
        omega
      · have points := Nat.mul_le_mul_right scale beyond
        simp only [Nat.add_mul, Nat.succ_eq_add_one] at points ⊢
        omega
  · rcases reached with ⟨low, passed⟩ | ⟨high, -⟩
    · have chosen := chosen passed
      rcases Nat.eq_or_lt_of_le low with next | beyond
      · subst next
        simp only [Nat.add_mul, true_or, true_and] at chosen ⊢
        omega
      · have points := Nat.mul_le_mul_right scale beyond
        simp only [Nat.add_mul, Nat.succ_eq_add_one] at points ⊢
        omega
    · have points := Nat.mul_le_mul_right scale high
      simp only [Nat.add_mul] at points ⊢
      omega

theorem neighbour?_none (none : neighbour? passes exact scale exponent = none) :
    passes ⟨exact / scale, exponent⟩ = false ∧ passes ⟨exact / scale + 1, exponent⟩ = false := by
  simp only [neighbour?] at none
  split at none
  case h_1 => split_ifs at none
  case h_2 => cases none
  case h_3 => cases none
  case h_4 below above => exact ⟨below, above⟩

end Neighbours

end Decimal

namespace Binary64

variable {x : Binary64} {d : Decimal} {p q r : ℚ}

/-- Whether a rational number is rounded to the size of `x`. -/
def Rounds (x : Binary64) (q : ℚ) : Prop := nearestTo q = x.magnitude

theorem Rounds.between (nonneg : 0 ≤ p) (first : x.Rounds p) (second : x.Rounds r) (above : p ≤ q)
    (below : q ≤ r) : x.Rounds q :=
  Nat.le_antisymm ((nearestTo_mono (nonneg.trans above) below).trans second.le)
    (first.ge.trans (nearestTo_mono nonneg above))

theorem abs_rational_eq_div (x : Binary64) : |x.rational| = x.size / oneUnits := by
  have size : |(x.units : ℚ)| = x.size := by
    unfold units
    split
    · rw [Int.cast_neg, Int.cast_natCast, abs_neg, Nat.abs_cast]
    · rw [Int.cast_natCast, Nat.abs_cast]
  rw [rational_eq_div, abs_div, size, Nat.abs_cast]

/-- The size of a number is rounded to itself. -/
theorem rounds_self (x : Binary64) : x.Rounds |x.rational| := by
  have positive : 0 < oneUnits := Nat.pos_of_ne_zero (Nat.cast_ne_zero.mp oneUnits_ne_zero)
  have exact := nearestIndex_mul_right positive x.size 1
  rw [Nat.one_mul] at exact
  rw [Rounds, abs_rational_eq_div, nearestTo_div _ positive, exact]
  exact nearestIndex_magnitudeSize _

/-- The unit of the decimal grid that is `shift` digits coarser than the exact one. -/
def gridUnit (shift : Nat) : ℚ := 10 ^ (exactExponent + shift)

theorem gridUnit_pos (shift : Nat) : 0 < gridUnit shift := zpow_pos (by norm_num) _

theorem gridUnit_add (shift digits : Nat) :
    gridUnit (shift + digits) = 10 ^ digits * gridUnit shift := by
  rw [gridUnit, gridUnit, Nat.cast_add, ← Int.add_assoc, zpow_add₀ (by norm_num), zpow_natCast,
    mul_comm]

theorem abs_rational_eq (x : Binary64) : |x.rational| = x.exactSignificand * gridUnit 0 := by
  obtain ⟨places, count⟩ : ∃ places, places = 1074 := ⟨_, rfl⟩
  have exponent : exactExponent + (0 : Nat) = -(places : Int) := count ▸ by decide
  have ten : (10 : ℚ) ^ places = 5 ^ places * 2 ^ places := by
    rw [← mul_pow]
    norm_num
  rw [abs_rational_eq_div, gridUnit, exponent, exactSignificand_eq x count, oneUnits_eq count,
    zpow_neg, zpow_natCast, ten]
  push_cast
  field_simp

theorem readsBack_iff : x.readsBack d = true ↔ x.Rounds d.rational := by
  rw [readsBack, decide_eq_true_eq, Decimal.nearest_iff, Rounds]

section Grid

variable {shift m n : Nat}

theorem grid_mono (shift : Nat) (less : m ≤ n) : (m * gridUnit shift : ℚ) ≤ n * gridUnit shift :=
  mul_le_mul_of_nonneg_right (Nat.cast_le.mpr less) (gridUnit_pos shift).le

theorem grid_nonneg (m shift : Nat) : (0 : ℚ) ≤ m * gridUnit shift :=
  mul_nonneg (Nat.cast_nonneg m) (gridUnit_pos shift).le

theorem grid_eq (m shift : Nat) : (m * gridUnit shift : ℚ) = (m * 10 ^ shift : Nat) * gridUnit 0 := by
  have unit := gridUnit_add 0 shift
  rw [Nat.zero_add] at unit
  rw [unit, Nat.cast_mul, Nat.cast_pow, Nat.cast_ofNat, mul_assoc]

/-- The size of a number lies between two neighbours on every grid. -/
theorem abs_rational_between (x : Binary64) (shift : Nat) :
    (x.exactSignificand / 10 ^ shift : Nat) * gridUnit shift ≤ |x.rational| ∧
      |x.rational| ≤ (x.exactSignificand / 10 ^ shift + 1 : Nat) * gridUnit shift := by
  have positive : 0 < 10 ^ shift := Nat.pow_pos (by decide)
  rw [grid_eq _ shift, grid_eq _ shift, abs_rational_eq]
  constructor
  · exact grid_mono 0 (Nat.div_mul_le_self ..)
  · rw [Nat.add_mul, Nat.one_mul]
    exact grid_mono 0 (Nat.lt_div_mul_add positive).le

/-- If a point of a grid is rounded to a number, then so is one of its two neighbours there. -/
theorem Rounds.neighbour (rounded : x.Rounds (m * gridUnit shift)) :
    m ≤ x.exactSignificand / 10 ^ shift ∧
      x.Rounds ((x.exactSignificand / 10 ^ shift : Nat) * gridUnit shift) ∨
    x.exactSignificand / 10 ^ shift + 1 ≤ m ∧
      x.Rounds ((x.exactSignificand / 10 ^ shift + 1 : Nat) * gridUnit shift) := by
  obtain ⟨below, above⟩ := x.abs_rational_between shift
  rcases le_or_gt m (x.exactSignificand / 10 ^ shift) with low | high
  · exact .inl ⟨low, .between (grid_nonneg ..) rounded x.rounds_self (grid_mono shift low) below⟩
  · exact .inr ⟨high, .between (abs_nonneg _) x.rounds_self rounded above (grid_mono shift high)⟩

theorem distance_eq (m n : Nat) :
    |(m * gridUnit 0 - n * gridUnit 0 : ℚ)| = ((m : ℤ) - n).natAbs * gridUnit 0 := by
  rw [← sub_mul, abs_mul, abs_of_pos (gridUnit_pos 0), Nat.cast_natAbs]
  push_cast
  rfl

theorem preferred_of_units {target : Nat}
    (distances : ((m : ℤ) - target).natAbs < ((n : ℤ) - target).natAbs ∨ n = m ∨
      ((m : ℤ) - target).natAbs = ((n : ℤ) - target).natAbs ∧
        EvenBeside (m * gridUnit 0) (n * gridUnit 0)) :
    Preferred (target * gridUnit 0) (m * gridUnit 0) (n * gridUnit 0) := by
  rw [Preferred, distance_eq, distance_eq]
  rcases distances with nearer | same | ⟨tie, even⟩
  · exact .inl (mul_lt_mul_of_pos_right (Nat.cast_lt.mpr nearer) (gridUnit_pos 0))
  · exact .inr (.inl (by rw [same]))
  · exact .inr (.inr ⟨by rw [tie], even⟩)

theorem neighbour?_none (none : x.neighbour? shift = none) (m : Nat) :
    ¬x.Rounds (m * gridUnit shift) := by
  intro rounded
  obtain ⟨below, above⟩ := Decimal.neighbour?_none none
  rcases rounded.neighbour with ⟨-, passed⟩ | ⟨-, passed⟩
  · exact Bool.eq_false_iff.mp below (readsBack_iff.mpr passed)
  · exact Bool.eq_false_iff.mp above (readsBack_iff.mpr passed)

/-- A neighbour that is found is preferred to every other point of its grid that could be. -/
theorem neighbour?_some (found : x.neighbour? shift = some d) :
    d.rational = d.significand * gridUnit shift ∧ ∀ m : Nat, x.Rounds (m * gridUnit shift) →
      Preferred |x.rational| d.rational (m * gridUnit shift) := by
  have value : d.rational = d.significand * gridUnit shift := by
    rw [Decimal.rational, Decimal.neighbour?_exponent found, gridUnit]
  refine ⟨value, fun m rounded => ?_⟩
  have nearest := Decimal.neighbour?_nearest found (Nat.pow_pos (by decide)) (m := m) <|
    rounded.neighbour.imp (.imp_right readsBack_iff.mpr) (.imp_right readsBack_iff.mpr)
  rw [abs_rational_eq, value, grid_eq d.significand, grid_eq m]
  refine preferred_of_units (nearest.imp_right (.imp_right (.imp_right fun next => ?_)))
  obtain ⟨beside, even⟩ := next
  rw [← grid_eq, ← grid_eq]
  exact ⟨d.significand, m, _, rfl, rfl, beside, even⟩

/-- What is found from a grid down. The decimal is preferred on its grid, and no point of a coarser
grid is rounded to the number. -/
structure Finds (x : Binary64) (d : Decimal) (shift top : Nat) : Prop where
  le : shift ≤ top
  value : d.rational = d.significand * gridUnit shift
  preferred : ∀ m : Nat, x.Rounds (m * gridUnit shift) →
    Preferred |x.rational| d.rational (m * gridUnit shift)
  coarser : ∀ other, shift < other → other ≤ top → ∀ m : Nat, ¬x.Rounds (m * gridUnit other)

theorem search_finds (x : Binary64) (top : Nat) : ∃ shift, x.Finds (x.search top) shift top := by
  induction top with
  | zero =>
    have value : (x.search 0).rational = x.exactSignificand * gridUnit 0 := by
      rw [search, Decimal.rational, gridUnit, Nat.cast_zero, Int.add_zero]
    refine ⟨0, le_rfl, value, fun m _ => ?_, fun other above below => by omega⟩
    rw [abs_rational_eq, value]
    exact preferred_of_units (by omega)
  | succ top ih =>
    rw [search]
    cases found : x.neighbour? (top + 1) with
    | none =>
      obtain ⟨shift, finds⟩ := ih
      refine ⟨shift, Nat.le_succ_of_le finds.le, finds.value, finds.preferred, ?_⟩
      intro other above below
      rcases Nat.le_succ_iff.mp below with below | rfl
      · exact finds.coarser other above below
      · exact neighbour?_none found
    | some d =>
      obtain ⟨value, preferred⟩ := neighbour?_some found
      exact ⟨top + 1, le_rfl, value, preferred, fun other above below => by omega⟩

theorem length_toDigits_bounds (some : n ≠ 0) :
    10 ^ ((Nat.toDigits 10 n).length - 1) ≤ n ∧ n < 10 ^ ((Nat.toDigits 10 n).length - 1 + 1) := by
  have positive : 0 < (Nat.toDigits 10 n).length := List.length_pos_iff.mpr Nat.toDigits_ne_nil
  constructor
  · by_contra less
    rcases Nat.eq_zero_or_pos ((Nat.toDigits 10 n).length - 1) with single | several
    · rw [single] at less
      omega
    · have short := (Nat.length_toDigits_le_iff (by decide) several).mpr (not_le.mp less)
      omega
  · refine (Nat.length_toDigits_le_iff (by decide) (Nat.succ_pos _)).mp ?_
    omega

/-- The number has a digit on the grid and none before it. -/
def Leads (x : Binary64) (top : Nat) : Prop :=
  gridUnit top ≤ |x.rational| ∧ |x.rational| < gridUnit (top + 1)

theorem leads_shortest (some : x.rational ≠ 0) :
    x.Leads ((Nat.toDigits 10 x.exactSignificand).length - 1) := by
  have positive : x.exactSignificand ≠ 0 := by
    intro none
    rw [← abs_ne_zero, abs_rational_eq, none, Nat.cast_zero, zero_mul] at some
    exact some rfl
  obtain ⟨below, above⟩ := length_toDigits_bounds positive
  have unit (shift : Nat) : gridUnit shift = (10 ^ shift : Nat) * gridUnit 0 := by
    have points := grid_eq 1 shift
    rwa [Nat.cast_one, one_mul, Nat.one_mul] at points
  rw [Leads, unit, unit (_ + 1), abs_rational_eq]
  refine ⟨grid_mono 0 below, ?_⟩
  exact mul_lt_mul_of_pos_right (Nat.cast_lt.mpr above) (gridUnit_pos 0)

namespace Finds

variable {top digits : Nat}

theorem power_of_ten (exact : d.rational = 10 ^ digits * gridUnit shift) : d.Fits 1 := by
  refine ⟨⟨1, digits + (exactExponent + shift)⟩, Nat.one_lt_pow one_ne_zero (by decide), ?_⟩
  rw [exact, Decimal.rational, gridUnit, zpow_add₀ (by norm_num), zpow_natCast, Nat.cast_one, one_mul]

theorem preferred_power (finds : x.Finds d shift top)
    (rounded : x.Rounds (10 ^ digits * gridUnit shift)) :
    Preferred |x.rational| d.rational (10 ^ digits * gridUnit shift) := by
  have preferred := finds.preferred (10 ^ digits)
  rw [Nat.cast_pow, Nat.cast_ofNat] at preferred
  exact preferred rounded

/-- Where a power of ten is rounded to the number, the decimal that is found has not more digits
than the power has zeros. -/
theorem fits_of_power (finds : x.Finds d shift top) (leads : x.Leads top) (several : 1 ≤ digits)
    (rounded : x.Rounds (10 ^ digits * gridUnit shift)) : d.Fits digits := by
  obtain ⟨more, rfl⟩ := Nat.exists_eq_add_of_le' several
  -- The power is a point of the next grid as well, so this grid is the top one.
  have last : shift = top := by
    by_contra other
    refine finds.coarser (shift + 1) (Nat.lt_succ_self _) (by have := finds.le; omega) (10 ^ more) ?_
    rw [gridUnit_add, Nat.cast_pow, Nat.cast_ofNat, ← mul_assoc, ← pow_add]
    exact rounded
  subst last
  have above : |x.rational| ≤ 10 ^ (more + 1) * gridUnit shift := by
    refine leads.2.le.trans ?_
    rw [gridUnit_add]
    exact mul_le_mul_of_nonneg_right (pow_le_pow_right₀ (by norm_num) several) (gridUnit_pos _).le
  rcases ((finds.preferred_power rounded).le above).lt_or_eq with less | same
  · refine ⟨d, ?_, rfl⟩
    rw [finds.value, mul_lt_mul_iff_left₀ (gridUnit_pos shift)] at less
    exact_mod_cast less
  · exact (power_of_ten same).mono several

theorem not_rounds_zero (leads : x.Leads top) : ¬x.Rounds 0 := by
  intro rounded
  have index : (x.magnitude : Nat) = 0 := rounded.symm.trans nearestTo_zero
  have none : x.size = 0 := by rw [size, index]; rfl
  have some := (gridUnit_pos top).trans_le leads.1
  rw [abs_rational_eq_div, none, Nat.cast_zero, zero_div] at some
  exact some.false

/-- A decimal that is rounded to the number stands on the grid or on a finer one, unless a single
digit is enough. -/
theorem exponent_le (finds : x.Finds d shift top) (leads : x.Leads top) {other : Decimal}
    (some : other.significand ≠ 0) (rounded : x.Rounds other.rational) :
    other.exponent ≤ exactExponent + shift ∨ d.Fits 1 := by
  by_cases fine : other.exponent ≤ exactExponent + shift
  · exact .inl fine
  refine .inr ?_
  by_cases covered : other.exponent ≤ exactExponent + top
  · -- The grid of the other decimal was searched before.
    obtain ⟨grid, same⟩ : ∃ grid : Nat, other.exponent = exactExponent + grid :=
      ⟨(other.exponent - exactExponent).toNat, by omega⟩
    rw [Decimal.rational, same, ← gridUnit] at rounded
    exact absurd rounded (finds.coarser grid (by omega) (by omega) _)
  · -- The other decimal is beyond the power of ten above the number.
    have beyond : gridUnit (top + 1) ≤ other.rational := calc
      gridUnit (top + 1) = 1 * 10 ^ (exactExponent + (top + 1 : Nat)) := (one_mul _).symm
      _ ≤ other.significand * 10 ^ other.exponent := by
        refine mul_le_mul ?_ ?_ (gridUnit_pos _).le (Nat.cast_nonneg _)
        · exact Nat.one_le_cast.mpr (Nat.one_le_iff_ne_zero.mpr some)
        · exact zpow_le_zpow_right₀ (by norm_num) (by omega)
    have power : x.Rounds (gridUnit (top + 1)) :=
      .between (abs_nonneg _) x.rounds_self rounded leads.2.le beyond
    rw [gridUnit_add] at power
    have last : shift = top := by
      by_contra different
      refine finds.coarser top (by have := finds.le; omega) le_rfl (10 ^ 1) ?_
      rw [Nat.cast_pow, Nat.cast_ofNat]
      exact power
    exact finds.fits_of_power leads le_rfl (last ▸ power)

/-- No decimal that is rounded to the number has fewer digits than the one that is found. -/
theorem fits (finds : x.Finds d shift top) (leads : x.Leads top) (reads : x.Rounds d.rational)
    {other : Decimal} (short : other.significand < 10 ^ digits) (rounded : x.Rounds other.rational) :
    d.Fits digits := by
  have some : other.significand ≠ 0 := by
    intro none
    rw [Decimal.rational, none, Nat.cast_zero, zero_mul] at rounded
    exact not_rounds_zero leads rounded
  have several : 1 ≤ digits := by
    rcases Nat.eq_zero_or_pos digits with rfl | several
    · omega
    · exact several
  rcases finds.exponent_le leads some rounded with fine | single
  · rcases Nat.lt_or_ge d.significand (10 ^ digits) with fits | long
    · exact ⟨d, fits, rfl⟩
    -- The power of ten with so many zeros lies between the two decimals.
    refine finds.fits_of_power leads several (.between other.rational_nonneg rounded reads ?_ ?_)
    · refine mul_le_mul ?_ ?_ (zpow_nonneg (by norm_num) _) (by positivity)
      · exact_mod_cast short.le
      · exact zpow_le_zpow_right₀ (by norm_num) fine
    · rw [finds.value]
      refine mul_le_mul_of_nonneg_right ?_ (gridUnit_pos shift).le
      exact_mod_cast long
  · exact single.mono several

theorem power_le (finds : x.Finds d shift top) (leads : x.Leads top) (reads : x.Rounds d.rational)
    (long : ¬d.Fits digits) : 10 ^ digits * gridUnit shift ≤ |x.rational| := by
  by_contra beyond
  have beyond := not_le.mp beyond
  have below : 10 ^ digits * gridUnit shift ≤ d.rational := by
    rw [finds.value]
    refine mul_le_mul_of_nonneg_right ?_ (gridUnit_pos shift).le
    exact_mod_cast not_lt.mp fun short => long ⟨d, short, rfl⟩
  have rounded := Rounds.between (abs_nonneg _) x.rounds_self reads beyond.le below
  have above := (finds.preferred_power rounded).le beyond.le
  have single := power_of_ten (le_antisymm above below)
  rcases Nat.eq_zero_or_pos digits with rfl | several
  · have least : gridUnit shift ≤ gridUnit top :=
      zpow_le_zpow_right₀ (by norm_num) (by have := finds.le; omega)
    rw [pow_zero, one_mul] at beyond
    exact (beyond.trans_le (least.trans leads.1)).false
  · exact long (single.mono several)

/-- A decimal that is found is preferred to every other one of as few digits. -/
theorem preferred_of_fits (finds : x.Finds d shift top) (leads : x.Leads top)
    (reads : x.Rounds d.rational) {other : Decimal} (rounded : x.Rounds other.rational)
    (short : ∀ digits, d.Fits digits → other.Fits digits) :
    Preferred |x.rational| d.rational other.rational := by
  have some : d.rational ≠ 0 := fun none => not_rounds_zero leads (none ▸ reads)
  obtain ⟨digits, fits, long⟩ := Decimal.exists_fits_succ some
  obtain ⟨same, short, value⟩ := short _ fits
  rw [← value] at rounded ⊢
  rcases le_or_gt (exactExponent + shift) same.exponent with coarse | fine
  · obtain ⟨zeros, exponent⟩ : ∃ zeros : Nat, same.exponent = exactExponent + shift + zeros :=
      ⟨(same.exponent - (exactExponent + shift)).toNat, by omega⟩
    have point : same.rational = (same.significand * 10 ^ zeros : Nat) * gridUnit shift := by
      rw [Decimal.rational, exponent, zpow_add₀ (by norm_num), zpow_natCast, gridUnit]
      push_cast
      ring
    rw [point] at rounded ⊢
    exact finds.preferred _ rounded
  · -- The power of ten that leads so many digits stands between the other decimal and the number.
    have below : same.rational < 10 ^ digits * gridUnit shift := calc
      same.rational < 10 ^ (digits + 1) * 10 ^ same.exponent := by
        refine mul_lt_mul_of_pos_right ?_ (zpow_pos (by norm_num) _)
        exact_mod_cast short
      _ = 10 ^ digits * 10 ^ (same.exponent + 1) := by
        rw [zpow_add_one₀ (by norm_num)]
        ring
      _ ≤ 10 ^ digits * gridUnit shift := by
        refine mul_le_mul_of_nonneg_left ?_ (by positivity)
        exact zpow_le_zpow_right₀ (by norm_num) (by omega)
    have above := finds.power_le leads reads long
    have power := Rounds.between same.rational_nonneg rounded x.rounds_self below.le above
    have nearer := (finds.preferred_power power).abs_le
    refine .inl (nearer.trans_lt ?_)
    rw [abs_sub_comm, abs_of_nonneg (sub_nonneg.mpr above), abs_sub_comm,
      abs_of_nonneg (sub_nonneg.mpr (below.le.trans above))]
    exact sub_lt_sub_left below _

end Finds

end Grid

theorem shortest_of_zero (zero : x.rational = 0) : x.shortest.significand = 0 := by
  have none : x.exactSignificand = 0 := by
    have unit := abs_rational_eq x
    rw [zero, abs_zero, zero_eq_mul] at unit
    exact Nat.cast_eq_zero.mp (unit.resolve_right (gridUnit_pos 0).ne')
  have start : (Nat.toDigits 10 x.exactSignificand).length - 1 = 0 := by rw [none]; rfl
  rw [shortest, start, search]
  exact none

/-- The search for the shortest decimal ends at the shortest decimal. -/
theorem isShortest_shortest (x : Binary64) : x.IsShortest x.shortest := by
  have reads := Decimal.nearest_iff.mp x.nearest_shortest
  by_cases zero : x.rational = 0
  · have none := shortest_of_zero zero
    have value : x.shortest.rational = 0 := by rw [Decimal.rational, none, Nat.cast_zero, zero_mul]
    refine ⟨x.nearest_shortest, fun _ digits _ _ => ?_, fun other _ _ => ?_⟩
    · exact ⟨x.shortest, none ▸ Nat.pow_pos (by decide), rfl⟩
    · rcases other.rational_nonneg.lt_or_eq with some | same
      · refine .inl ?_
        rwa [zero, value, abs_zero, sub_zero, sub_zero, abs_zero, abs_of_pos some]
      · exact .inr (.inl (same.symm.trans value.symm))
  · obtain ⟨shift, finds⟩ := x.search_finds ((Nat.toDigits 10 x.exactSignificand).length - 1)
    have leads := leads_shortest zero
    refine ⟨x.nearest_shortest, fun other digits rounded fits => ?_, fun other rounded short => ?_⟩
    · obtain ⟨same, short, value⟩ := fits
      exact finds.fits leads reads short (value ▸ Decimal.nearest_iff.mp rounded)
    · exact finds.preferred_of_fits leads reads (Decimal.nearest_iff.mp rounded) short

end Binary64

end PiecewiseLang
