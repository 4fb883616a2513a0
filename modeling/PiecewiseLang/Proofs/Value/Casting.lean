import Mathlib.Data.Rat.Floor
import PiecewiseLang.Proofs.Binary64.Dyadic
import PiecewiseLang.Value.Cast

/-! Casts, told by the rational number that is cast. A number or truth value stands for one; its
cast to an integer is that number cut towards zero, however large, and its cast to a truth value
tells it from zero. What a cast gives is kept by the same cast, and integers of at most 53 bits
come back from the reals. -/
namespace PiecewiseLang

/-- The integer that is left of a rational number without its fraction. -/
def towardZero (q : ℚ) : Int := if 0 ≤ q then ⌊q⌋ else ⌈q⌉

/-- Cutting a quotient is the division of integers towards zero. -/
theorem towardZero_div (a : Int) (b : Nat) : towardZero (a / b) = a.tdiv b := by
  unfold towardZero
  rcases Int.le_total 0 a with nonneg | nonpos
  · have sign : (0 : ℚ) ≤ a / b := div_nonneg (Int.cast_nonneg nonneg) (Nat.cast_nonneg b)
    rw [if_pos sign, Rat.floor_intCast_div_natCast, Int.tdiv_eq_ediv_of_nonneg nonneg]
  · have sign : (a / b : ℚ) ≤ 0 :=
      div_nonpos_of_nonpos_of_nonneg (Int.cast_nonpos.mpr nonpos) (Nat.cast_nonneg b)
    have ceiling : ⌈(a / b : ℚ)⌉ = a.tdiv b := by
      rw [Rat.ceil_intCast_div_natCast, ← Int.tdiv_eq_ediv_of_nonneg (Int.neg_nonneg.mpr nonpos),
        Int.neg_tdiv, Int.neg_neg]
    split
    · have none : (a / b : ℚ) = 0 := le_antisymm sign ‹_›
      rw [← ceiling, none, Int.floor_zero, Int.ceil_zero]
    · exact ceiling

theorem towardZero_intCast (n : Int) : towardZero n = n := by
  simpa using towardZero_div n 1

namespace Binary64

/-- The whole part of a real is exact, however large the real is. -/
theorem truncate_eq (x : Binary64) : x.truncate = towardZero x.rational := by
  rw [rational_eq_div, towardZero_div, truncate]

theorem magnitudeSize_eq_zero (index : Nat) : magnitudeSize index = 0 ↔ index = 0 := by
  unfold magnitudeSize
  split
  · exact Iff.rfl
  case isFalse normal =>
    have some : 0 < fractionCount := by decide
    refine iff_of_false (Nat.mul_ne_zero (by omega) ?_) (by omega)
    exact Nat.ne_of_gt (Nat.pow_pos two_pos)

theorem isZero_iff (x : Binary64) : x.isZero = true ↔ x.rational = 0 := by
  have units_eq_zero : x.units = 0 ↔ x.size = 0 := by
    unfold units
    split <;> omega
  rw [isZero, decide_eq_true_eq, rational_eq_div, div_eq_zero_iff, or_iff_left oneUnits_ne_zero,
    Int.cast_eq_zero, units_eq_zero, size, magnitudeSize_eq_zero]

section Grid

variable {n m shift : Nat}

/-- A significand of at most 53 bits is a size on the grid after any shift; with fewer bits there
is no shift to be made up for. -/
theorem magnitudeSize_shifted (small : m < 2 * fractionCount)
    (full : fractionCount ≤ m ∨ shift = 0) :
    magnitudeSize (shift * fractionCount + m) = m * 2 ^ shift := by
  have positive : 0 < fractionCount := by decide
  by_cases subnormal : m < fractionCount
  · obtain rfl : shift = 0 := full.resolve_left (Nat.not_le.mpr subnormal)
    simp [magnitudeSize, subnormal]
  · obtain ⟨fraction, rfl⟩ := Nat.exists_eq_add_of_le (Nat.not_lt.mp subnormal)
    have index : shift * fractionCount + (fractionCount + fraction) =
        fraction + (shift + 1) * fractionCount := by
      rw [Nat.add_mul]
      omega
    have below : fraction < fractionCount := by omega
    rw [index, magnitudeSize, if_neg (by rw [Nat.add_mul]; omega), Nat.add_mul_mod_self_right,
      Nat.mod_eq_of_lt below, Nat.add_mul_div_right _ _ positive, Nat.div_eq_of_lt below,
      Nat.zero_add, Nat.add_sub_cancel, Nat.pow_eq]

/-- What is left of a number when all but its first 53 bits are shifted out. -/
theorem significand_range (whole : n = m * 2 ^ (n.log2 - 52)) :
    m < 2 * fractionCount ∧ (fractionCount ≤ m ∨ n.log2 - 52 = 0) := by
  have double : 2 * fractionCount = 2 ^ 53 := rfl
  have positive : 0 < 2 ^ (n.log2 - 52) := Nat.two_pow_pos _
  have upper : n < 2 ^ (n.log2 + 1) := Nat.lt_log2_self
  rw [double, fractionCount_eq]
  rcases Nat.le_total n.log2 52 with short | long
  · have none : n.log2 - 52 = 0 := by omega
    rw [none, Nat.pow_zero, Nat.mul_one] at whole
    subst whole
    refine ⟨Nat.lt_of_lt_of_le upper (Nat.pow_le_pow_right two_pos (by omega)), .inr none⟩
  · have nonzero : n ≠ 0 := by
      rintro rfl
      simp at long
    have lower : 2 ^ n.log2 ≤ n := Nat.log2_self_le nonzero
    obtain ⟨shift, sum⟩ := Nat.exists_eq_add_of_le long
    rw [sum, Nat.add_sub_cancel_left] at whole positive ⊢
    rw [sum, whole] at upper lower
    rw [Nat.add_right_comm, Nat.pow_add] at upper
    rw [Nat.pow_add] at lower
    exact ⟨Nat.lt_of_mul_lt_mul_right upper, .inl (Nat.le_of_mul_le_mul_right lower positive)⟩

theorem nearestIndex_exact (whole : n = m * 2 ^ (n.log2 - 52)) :
    nearestIndex n 1 = (n.log2 - 52) * fractionCount + m := by
  have exact := divideHalfEven_mul (Nat.two_pow_pos (n.log2 - 52)) m
  rw [← whole] at exact
  rw [nearestIndex, Nat.div_one, Nat.one_mul, Nat.pow_eq, exact]

theorem log2_mul_two_pow (positive : 0 < n) (places : Nat) :
    (n * 2 ^ places).log2 = n.log2 + places := by
  have nonzero : n ≠ 0 := Nat.ne_of_gt positive
  rw [Nat.log2_eq_iff (Nat.ne_of_gt (Nat.mul_pos positive (Nat.two_pow_pos places))), Nat.pow_add,
    Nat.add_right_comm, Nat.pow_add]
  exact ⟨Nat.mul_le_mul_right _ (Nat.log2_self_le nonzero),
    Nat.mul_lt_mul_of_pos_right Nat.lt_log2_self (Nat.two_pow_pos places)⟩

/-- Of a number up to `2 ^ 53`, shifted up, nothing is lost but zeros behind the first 53 bits. -/
theorem two_pow_dvd_shifted (positive : 0 < n) (small : n ≤ 2 * fractionCount)
    (enough : 1 ≤ places) : 2 ^ (n.log2 + places - 52) ∣ n * 2 ^ places := by
  rcases Nat.lt_or_ge 52 n.log2 with long | short
  · have power : 2 * fractionCount = 2 ^ 53 := rfl
    have lower : 2 ^ n.log2 ≤ n := Nat.log2_self_le (Nat.ne_of_gt positive)
    have least : 2 ^ 53 ≤ 2 ^ n.log2 := Nat.pow_le_pow_right two_pos long
    obtain rfl : n = 2 ^ 53 := by omega
    rw [Nat.log2_two_pow, ← Nat.pow_add]
    exact Nat.pow_dvd_pow 2 (by omega)
  · exact Nat.dvd_mul_left_of_dvd (Nat.pow_dvd_pow 2 (by omega)) n

/-- Whole numbers up to `2 ^ 53` are on the grid, and none of them is rounded. -/
theorem ofRatio_whole (small : n ≤ 2 * fractionCount) (sign : Bool) : ∃ x : Binary64,
    Double.ofRatio sign (n * oneUnits) 1 = .finite x ∧ x.negative = sign ∧
      x.size = n * oneUnits := by
  rcases Nat.eq_zero_or_pos n with rfl | positive
  · refine ⟨signedZero sign, Double.ofRatio_small (by rw [Nat.zero_mul]; decide) sign, rfl, ?_⟩
    rw [Nat.zero_mul]
    rfl
  obtain ⟨places, count⟩ : ∃ places, places = 1074 := ⟨_, rfl⟩
  rw [oneUnits_eq count]
  have log2 := log2_mul_two_pow positive places
  have enough : 1 ≤ places := by omega
  obtain ⟨m, whole⟩ := two_pow_dvd_shifted positive small enough
  rw [← log2, Nat.mul_comm (2 ^ _) m] at whole
  have index := nearestIndex_exact whole
  obtain ⟨least, full⟩ := significand_range whole
  have exact := magnitudeSize_shifted least full
  rw [← index, ← whole] at exact
  have inRange : nearestIndex (n * 2 ^ places) 1 < magnitudeCount := by
    have bits : n.log2 < 54 := by
      refine (Nat.log2_lt (Nat.ne_of_gt positive)).mpr (Nat.lt_of_le_of_lt small ?_)
      decide
    have shift := Nat.mul_le_mul_right fractionCount (show n.log2 + places - 52 ≤ 1075 by omega)
    have perExponent : fractionCount = 4503599627370496 := rfl
    have total : magnitudeCount = 9218868437227405312 := rfl
    rw [index, log2]
    omega
  exact ⟨⟨sign, _, inRange⟩, dif_pos inRange, rfl, exact⟩

end Grid

end Binary64

/-- Integers of at most 53 bits have an exact real. -/
theorem Double.ofInt_exact {n : Int} (small : n.natAbs ≤ 2 * Binary64.fractionCount) :
    ∃ x : Binary64, Double.ofInt n = .finite x ∧ x.rational = n := by
  obtain ⟨x, rounded, sign, size⟩ := Binary64.ofRatio_whole small (n < 0)
  refine ⟨x, rounded, ?_⟩
  have positive : (Binary64.oneUnits : ℚ) ≠ 0 := Binary64.oneUnits_ne_zero
  have units : x.units = n * Binary64.oneUnits := by
    rw [Binary64.units, sign, size, Int.natCast_mul]
    split
    case isTrue negative =>
      have := of_decide_eq_true negative
      rw [← Int.neg_mul, show -(n.natAbs : Int) = n by omega]
    case isFalse nonneg =>
      have := of_decide_eq_false (Bool.eq_false_iff.mpr nonneg)
      rw [show (n.natAbs : Int) = n by omega]
  rw [Binary64.rational_eq_div, units, Int.cast_mul, Int.cast_natCast, mul_div_cancel_right₀ _ positive]

namespace Value

/-- The rational number that a number or a truth value stands for. -/
def rational? : Value → Option ℚ
  | .integer n => some n
  | .real (.finite x) => some x.rational
  | .boolean b => some (if b then 1 else 0)
  | _ => none

variable {v w : Value} {q : ℚ}

theorem whole?_of_rational? (stands : v.rational? = some q) : v.whole? = some (towardZero q) := by
  unfold rational? at stands
  split at stands
  case h_1 n =>
    cases stands
    rw [towardZero_intCast]
    rfl
  case h_2 x =>
    cases stands
    rw [← x.truncate_eq]
    rfl
  case h_3 b =>
    cases stands
    cases b with
    | false => exact congrArg some (by simpa using (towardZero_intCast 0).symm)
    | true => exact congrArg some (by simpa using (towardZero_intCast 1).symm)
  case h_4 => cases stands

theorem isNonzero_of_rational? (stands : v.rational? = some q) : v.isNonzero = decide (q ≠ 0) := by
  unfold rational? at stands
  split at stands
  case h_1 n => cases stands; simp [isNonzero]
  case h_2 x => cases stands; simp [isNonzero, ← x.isZero_iff]
  case h_3 b => cases stands; cases b <;> simp [isNonzero]
  case h_4 => cases stands

/-- Whether a value is a number or a truth value, as all that can be cast is if it is defined. -/
def isScalar : Value → Bool
  | .integer _ | .real _ | .boolean _ => true
  | _ => false

theorem isScalar_of_rational? (stands : v.rational? = some q) : v.isScalar = true := by
  cases v <;> first | rfl | cases stands

theorem cast_of_isScalar (scalar : v.isScalar = true) (named : Domain.ofName? name = some domain) :
    v.cast name = .ok (convert domain v) := by
  cases v with
  | integer | real | boolean => rw [cast, named]
  | _ => cases scalar

/-- What a cast gives is undefined, or a value that lies in the domain already. -/
theorem convert_settled (domain : Domain) (scalar : v.isScalar = true) :
    convert domain v = .undefined ∨
      (convert domain v).isScalar = true ∧ convert domain (convert domain v) = convert domain v := by
  cases domain with
  | booleans => exact .inr ⟨rfl, rfl⟩
  | integers =>
    simp only [convert, toInteger]
    split
    · exact .inr ⟨rfl, rfl⟩
    · exact .inl rfl
  | naturals =>
    simp only [convert, toNatural]
    split
    case h_1 n _ =>
      by_cases negative : n < 0
      · exact .inl (if_pos negative)
      · rw [if_neg negative]
        exact .inr ⟨rfl, if_neg negative⟩
    case h_2 => exact .inl rfl
  | reals =>
    have ofDouble (d : Double) : ofDouble d = .undefined ∨
        (ofDouble d).isScalar = true ∧ toReal (ofDouble d) = ofDouble d := by
      cases d with
      | finite => exact .inr ⟨rfl, rfl⟩
      | _ => exact .inl rfl
    cases v with
    | integer | boolean => exact ofDouble _
    | real => exact .inr ⟨rfl, rfl⟩
    | _ => cases scalar

theorem cast_undefined (named : Domain.ofName? name = some domain) :
    undefined.cast name = .ok .undefined := by
  rw [cast, named]

/-- Another cast to the same domain changes nothing. -/
theorem cast_idempotent (once : v.cast name = .ok w) : w.cast name = .ok w := by
  cases named : Domain.ofName? name with
  | none =>
    rw [cast, named] at once
    cases once
  | some domain =>
    by_cases scalar : v.isScalar = true
    · rw [cast_of_isScalar scalar named] at once
      cases once
      rcases convert_settled domain scalar with none | ⟨scalar', settled⟩
      · rw [none, cast_undefined named]
      · rw [cast_of_isScalar scalar' named, settled]
    · rw [cast, named] at once
      cases v with
      | integer | real | boolean => exact absurd rfl scalar
      | undefined =>
        cases once
        exact cast_undefined named
      | function | builtin | set => cases once

/-- An integer of at most 53 bits comes back from the reals as it was. -/
theorem cast_reals_integers {n : Int} (small : n.natAbs ≤ 2 * Binary64.fractionCount) :
    ∃ x : Binary64, (integer n).cast "R" = .ok (.real (.finite x)) ∧ x.rational = n ∧
      (real (.finite x)).cast "Z" = .ok (.integer n) := by
  obtain ⟨x, exact, rational⟩ := Double.ofInt_exact small
  have kept : x.canonicalZero.rational = n := by
    rw [Binary64.canonicalZero]
    split
    case isTrue zero =>
      rw [← rational, x.isZero_iff.mp zero]
      exact Binary64.zero.isZero_iff.mp rfl
    case isFalse => exact rational
  refine ⟨x.canonicalZero, ?_, kept, ?_⟩
  · rw [cast_of_isScalar rfl rfl, convert, toReal, exact]
    rfl
  · have whole := whole?_of_rational? (v := real (.finite x.canonicalZero)) (congrArg some kept)
    rw [cast_of_isScalar rfl rfl, convert, toInteger, whole, towardZero_intCast]

end Value

/-- The cast of a number or truth value is told by the rational number it stands for. To the
integers that number is cut towards zero, however large it is; to the natural numbers it is the same
integer, or undefined where that is negative; and it is true just if it is not zero. A cast that
gives anything gives the same when it is made twice, and the integers up to `2 ^ 53` in size come
back from the reals. -/
theorem casts_are_exact :
    (∀ (v : Value) (q : ℚ), v.rational? = some q →
      v.cast "Z" = .ok (.integer (towardZero q)) ∧
      v.cast "N" = .ok (if 0 ≤ towardZero q then .integer (towardZero q) else .undefined) ∧
      (-1 < q → q < 0 → v.cast "N" = .ok (.integer 0)) ∧
      v.cast "B" = .ok (.boolean (q ≠ 0))) ∧
    (∀ (v w : Value) (name : String), v.cast name = .ok w → w.cast name = .ok w) ∧
    ∀ n : Int, |n| ≤ 2 ^ 53 → ∃ v, (Value.integer n).cast "R" = .ok v ∧
      v.cast "Z" = .ok (.integer n) := by
  refine ⟨fun v q stands => ?_, fun v w name => Value.cast_idempotent, fun n small => ?_⟩
  · have scalar := Value.isScalar_of_rational? stands
    have naturals : v.cast "N" =
        .ok (if 0 ≤ towardZero q then .integer (towardZero q) else .undefined) := by
      rw [Value.cast_of_isScalar scalar rfl, Value.convert, Value.toNatural,
        Value.whole?_of_rational? stands]
      simp only [← Int.not_le, ite_not]
    refine ⟨?_, naturals, fun above below => ?_, ?_⟩
    · rw [Value.cast_of_isScalar scalar rfl, Value.convert, Value.toInteger,
        Value.whole?_of_rational? stands]
    · have zero : towardZero q = 0 := by
        rw [towardZero, if_neg (not_le.mpr below), Int.ceil_eq_zero_iff]
        exact ⟨above, below.le⟩
      rw [naturals, zero, if_pos le_rfl]
    · rw [Value.cast_of_isScalar scalar rfl, Value.convert, Value.isNonzero_of_rational? stands]
  · have count : 2 * Binary64.fractionCount = 2 ^ 53 := rfl
    obtain ⟨below, above⟩ := abs_le.mp small
    obtain ⟨x, first, -, second⟩ := Value.cast_reals_integers (n := n) (by omega)
    exact ⟨_, first, second⟩

/-- Minus one half, one of the reals with a whole part of zero. -/
def halfSample : Binary64 := ⟨true, 0x3fe0000000000000, by decide⟩

theorem casts_are_exact_sample :
    (Value.real (.finite halfSample)).cast "N" = .ok (.integer 0) ∧
    (Value.integer (10 ^ 400)).cast "R" = .ok .undefined ∧
    Value.undefined.cast "R" = .ok .undefined ∧
    ∃ v, (Value.integer (-2 ^ 53)).cast "R" = .ok v ∧ v.cast "Z" = .ok (.integer (-2 ^ 53)) := by
  obtain ⟨exact, again, back⟩ := casts_are_exact
  have stands : halfSample.rational = -1 / 2 := by
    have exponent : (halfSample.magnitude : Nat) / Binary64.fractionCount = 1022 := by decide
    have fraction : (halfSample.magnitude : Nat) % Binary64.fractionCount = 0 := by decide
    have leading : (Binary64.fractionCount : ℚ) = 2 ^ 52 := by
      rw [Binary64.fractionCount_eq, Nat.cast_pow, Nat.cast_ofNat]
    rw [Binary64.rational, exponent, fraction, Binary64.fieldsSize, leading]
    norm_num [halfSample]
  have overflow : (Value.integer (10 ^ 400)).cast "R" = .ok .undefined := by decide +kernel
  refine ⟨?_, overflow, again _ _ _ overflow, back _ (by decide)⟩
  exact (exact (.real (.finite halfSample)) _ (congrArg some stands)).2.2.1 (by norm_num) (by norm_num)

end PiecewiseLang
