import PiecewiseLang.Binary64.Shortest
import PiecewiseLang.Proofs.Binary64.Rounding
import PiecewiseLang.Proofs.Text.Numeral

/-! The written form of a number reads back as that number. The digits searched for read
back by construction, the search ends at the exact decimal, and writing a decimal around a
point keeps its value, on which alone the nearest number depends. -/
namespace PiecewiseLang

namespace Decimal

/-- A decimal is the ratio of two whole numbers. -/
def numerator (d : Decimal) : Nat := d.significand * 10 ^ d.exponent.toNat

def denominator (d : Decimal) : Nat := 10 ^ (-d.exponent).toNat

theorem denominator_pos (d : Decimal) : 0 < d.denominator := Nat.pow_pos (by decide)

theorem two_pow_le_ten_pow (enough : bits ≤ 3 * digits) : 2 ^ bits ≤ 10 ^ digits := calc
  2 ^ bits ≤ 2 ^ (3 * digits) := Nat.pow_le_pow_right (by decide) enough
  _ = 8 ^ digits := Nat.pow_mul ..
  _ ≤ 10 ^ digits := Nat.pow_le_pow_left (by decide) _

theorem scaled_lt_ten_pow {significand : Nat} (scale : 2 * units ≤ 10 ^ bound)
    (tiny : bound + (significand.log2 / 3 + 1) < places) :
    2 * (significand * units) < 10 ^ places := by
  have digits : significand < 10 ^ (significand.log2 / 3 + 1) :=
    Nat.lt_of_lt_of_le Nat.lt_log2_self (two_pow_le_ten_pow (by omega))
  calc 2 * (significand * units) = 2 * units * significand := by
        rw [Nat.mul_comm significand, Nat.mul_assoc]
    _ ≤ 10 ^ bound * significand := Nat.mul_le_mul_right _ scale
    _ < 10 ^ bound * 10 ^ (significand.log2 / 3 + 1) :=
        Nat.mul_lt_mul_of_pos_left digits (Nat.pow_pos (by decide))
    _ ≤ 10 ^ places := by
        rw [← Nat.pow_add]
        exact Nat.pow_le_pow_right (by decide) (by omega)

/-- A decimal that its exponent alone tells to vanish is less than half a grid unit. -/
theorem vanishes {significand : Nat}
    (tiny : exponentBound + (significand.log2 / 3 + 1) < places) :
    2 * (significand * Binary64.oneUnits) < 10 ^ places := by
  obtain ⟨bits, count⟩ : ∃ bits, bits = 1074 := ⟨_, rfl⟩
  refine scaled_lt_ten_pow ?_ tiny
  rw [Binary64.oneUnits_eq count, ← Nat.pow_succ']
  exact two_pow_le_ten_pow (by simp only [exponentBound]; omega)

/-- The shortcuts do not show: the nearest datum is that of the exact ratio. -/
theorem nearest_eq_ofRatio (d : Decimal) (negative : Bool)
    (bounded : d.significand = 0 ∨ d.exponent ≤ exponentBound) :
    d.nearest negative =
      Double.ofRatio negative (d.numerator * Binary64.oneUnits) d.denominator := by
  unfold nearest
  split
  case isTrue zero =>
    refine (Double.ofRatio_small ?_ negative).symm
    simpa [numerator, zero] using d.denominator_pos
  split
  case isTrue some large => exact absurd large (Int.not_lt.mpr (bounded.resolve_left some))
  split
  case isTrue tiny =>
    have whole : d.exponent.toNat = 0 := by omega
    refine (Double.ofRatio_small ?_ negative).symm
    rw [numerator, whole, Nat.pow_zero, Nat.mul_one]
    exact vanishes (by omega)
  split
  case isTrue whole =>
    have none : (-d.exponent).toNat = 0 := by omega
    simp [numerator, denominator, none]
  case isFalse fractional =>
    have none : d.exponent.toNat = 0 := by omega
    simp [numerator, denominator, none]

theorem bounded_of_nearest {d : Decimal} (finite : d.nearest negative = .finite x) :
    d.significand = 0 ∨ d.exponent ≤ exponentBound := by
  unfold nearest at finite
  split at finite
  case isTrue zero => exact .inl zero
  split at finite
  case isTrue => cases finite
  case isFalse small => exact .inr (Int.not_lt.mp small)

theorem nearest_negative {d : Decimal} (finite : d.nearest negative = .finite x) :
    x.negative = negative := by
  rw [nearest_eq_ofRatio d negative (bounded_of_nearest finite)] at finite
  exact Double.ofRatio_negative finite

/-- Decimals of the same value have the same nearest number. -/
theorem nearest_congr {d other : Decimal} (finite : d.nearest negative = .finite x)
    (small : other.exponent ≤ 0)
    (same : other.numerator * d.denominator = d.numerator * other.denominator) :
    other.nearest negative = .finite x := by
  have small : other.exponent ≤ exponentBound := Int.le_trans small (by decide)
  rw [nearest_eq_ofRatio d negative (bounded_of_nearest finite)] at finite
  rw [nearest_eq_ofRatio other negative (.inr small), ← finite]
  refine Double.ofRatio_congr ⟨other.denominator_pos, d.denominator_pos⟩ ?_ negative
  rw [Nat.mul_right_comm, same, Nat.mul_right_comm]

theorem passes_neighbour {passes : Decimal → Bool} {exponent : Int}
    (found : neighbour? passes exact scale exponent = some d) : passes d = true := by
  simp only [neighbour?] at found
  split at found
  case h_1 below above =>
    split at found
    · cases found; exact below
    split at found
    · cases found; exact above
    split at found
    · cases found; exact below
    · cases found; exact above
  case h_2 below _ => cases found; exact below
  case h_3 _ above => cases found; exact above
  case h_4 => cases found

end Decimal

namespace Binary64

theorem ofRatio_decimal_places (negative : Bool) (size places : Nat) :
    Double.ofRatio negative (size * 5 ^ places * 2 ^ places) (10 ^ places) =
      Double.ofRatio negative size 1 := by
  have ten : 10 ^ places = 5 ^ places * 2 ^ places := Nat.mul_pow 5 2 places
  refine Double.ofRatio_congr ⟨Nat.pow_pos (by decide), Nat.one_pos⟩ ?_ negative
  rw [ten, Nat.mul_one, Nat.mul_assoc]

theorem exactSignificand_eq (x : Binary64) (count : places = 1074) :
    x.exactSignificand = x.size * 5 ^ places := by
  rw [exactSignificand, ← count, Nat.pow_eq]

theorem readsBack_exact (x : Binary64) : x.readsBack ⟨x.exactSignificand, exactExponent⟩ = true := by
  obtain ⟨places, count⟩ : ∃ places, places = 1074 := ⟨_, rfl⟩
  have bounded : exactExponent ≤ (Decimal.exponentBound : Int) := by decide
  have whole : exactExponent.toNat = 0 := by decide
  have fraction : (-exactExponent).toNat = places := count ▸ by decide
  rw [readsBack, decide_eq_true_eq, Decimal.nearest_eq_ofRatio _ _ (.inr bounded),
    ← Double.ofRatio_size x, ← ofRatio_decimal_places _ _ places]
  simp only [Decimal.numerator, Decimal.denominator, whole, fraction, Nat.pow_zero, Nat.mul_one,
    exactSignificand_eq x count, oneUnits_eq count]

theorem readsBack_neighbour {x : Binary64} (found : x.neighbour? shift = some d) :
    x.readsBack d = true := Decimal.passes_neighbour found

theorem readsBack_search (x : Binary64) (shift : Nat) : x.readsBack (x.search shift) = true := by
  induction shift with
  | zero => exact x.readsBack_exact
  | succ shift ih =>
    rw [search]
    cases found : x.neighbour? (shift + 1) with
    | none => exact ih
    | some d => exact readsBack_neighbour found

theorem nearest_shortest (x : Binary64) : x.shortest.nearest x.negative = .finite x :=
  of_decide_eq_true (x.readsBack_search _)

end Binary64

namespace Decimal

open Text

theorem stripped_append_zeros (padded : List Char) : ∃ zeros,
    (padded.reverse.dropWhile (· = '0')).reverse ++ List.replicate zeros '0' = padded := by
  have zeros : padded.reverse.takeWhile (· = '0') =
      List.replicate (padded.reverse.takeWhile (· = '0')).length '0' :=
    List.eq_replicate_of_mem fun c member =>
      of_decide_eq_true (List.all_eq_true.mp List.all_takeWhile c member)
  refine ⟨(padded.reverse.takeWhile (· = '0')).length, ?_⟩
  rw [← List.reverse_replicate, ← zeros, ← List.reverse_append, List.takeWhile_append_dropWhile,
    List.reverse_reverse]

/-- The digits after the point, filled up with zeros, write the part of the significand
below the point. -/
theorem fractionDigits_spec {d : Decimal} (fractional : d.exponent < 0) : ∃ zeros,
    d.fractionDigits.length + zeros = (-d.exponent).toNat ∧
      digitsValue d.fractionDigits * 10 ^ zeros = d.significand % 10 ^ (-d.exponent).toNat ∧
      ∀ c ∈ d.fractionDigits, c.isDigit = true := by
  rw [fractionDigits, if_neg (Int.not_le.mpr fractional)]
  generalize count : (-d.exponent).toNat = places
  have fits : (Nat.toDigits 10 (d.significand % 10 ^ places)).length ≤ places :=
    (Nat.length_toDigits_le_iff (by decide) (by omega)).mpr (Nat.mod_lt _ (Nat.pow_pos (by decide)))
  have written := digitsValue_toDigits (d.significand % 10 ^ places)
  have digits := isDigit_toDigits (d.significand % 10 ^ places)
  simp only [Nat.pow_eq]
  generalize Nat.toDigits 10 (d.significand % 10 ^ places) = low at *
  obtain ⟨zeros, whole⟩ := stripped_append_zeros (List.replicate (places - low.length) '0' ++ low)
  generalize (List.reverse _) = stripped at *
  refine ⟨zeros, ?_, ?_, ?_⟩
  · have length := congrArg List.length whole
    simp only [List.length_append, List.length_replicate] at length
    omega
  · have value := congrArg digitsValue whole
    simpa only [digitsValue_append, digitsValue_zeros, List.length_replicate, Nat.add_zero,
      Nat.zero_mul, Nat.zero_add, written] using value
  · intro c member
    have padded : c ∈ List.replicate (places - low.length) '0' ++ low :=
      whole ▸ List.mem_append_left _ member
    rcases List.mem_append.mp padded with zero | digit
    · rw [List.eq_of_mem_replicate zero]; rfl
    · exact digits c digit

theorem wholeDigits_spec (d : Decimal) : d.wholeDigits ≠ [] ∧
    (∀ c ∈ d.wholeDigits, c.isDigit = true) ∧
      digitsValue d.wholeDigits = d.numerator / d.denominator := by
  unfold wholeDigits
  split
  case isTrue whole =>
    refine ⟨Nat.toDigits_ne_nil, isDigit_toDigits _, ?_⟩
    have none : (-d.exponent).toNat = 0 := by omega
    simp [numerator, denominator, none]
  case isFalse fractional =>
    refine ⟨Nat.toDigits_ne_nil, isDigit_toDigits _, ?_⟩
    have none : d.exponent.toNat = 0 := by omega
    simp [numerator, denominator, none]

/-- Digits on both sides of the point, of which those after it may be cut short by zeros. -/
theorem digitsValue_parts {whole fraction : List Char} (count : fraction.length + cut = places)
    (value : digitsValue whole * 10 ^ places + digitsValue fraction * 10 ^ cut = n) :
    digitsValue (whole ++ fraction) * 10 ^ places = n * 10 ^ fraction.length := by
  subst count value
  rw [digitsValue_append, Nat.add_mul, Nat.add_mul, Nat.pow_add]
  congr 1 <;> ac_rfl

/-- A decimal is written as digits, a point and digits, and these have its value. -/
theorem positional_spec (d : Decimal) : ∃ whole fraction,
    d.positional = String.ofList (whole ++ '.' :: fraction) ∧ whole ≠ [] ∧ fraction ≠ [] ∧
      (∀ c ∈ whole, c.isDigit = true) ∧ (∀ c ∈ fraction, c.isDigit = true) ∧
      digitsValue (whole ++ fraction) * d.denominator = d.numerator * 10 ^ fraction.length := by
  obtain ⟨nonempty, digits, value⟩ := d.wholeDigits_spec
  by_cases whole : 0 ≤ d.exponent
  case pos =>
    have none : (-d.exponent).toNat = 0 := by omega
    have empty : d.fractionDigits = [] := by rw [fractionDigits, if_pos whole]
    refine ⟨d.wholeDigits, ['0'], by simp [positional, empty], nonempty, by simp, digits,
      List.forall_mem_singleton.mpr rfl, ?_⟩
    rw [digitsValue_append, value]
    simp [denominator, none, digitsValue]
  have none : d.exponent.toNat = 0 := by omega
  have numerator_eq : d.numerator = d.significand := by rw [numerator, none, Nat.pow_zero, Nat.mul_one]
  have parts : digitsValue d.wholeDigits * d.denominator + d.significand % d.denominator =
      d.significand := by
    rw [value, numerator_eq]
    exact Nat.div_add_mod' ..
  obtain ⟨cut, count, low, lowDigits⟩ := fractionDigits_spec (Int.not_le.mp whole)
  rw [numerator_eq]
  by_cases empty : d.fractionDigits = []
  case pos =>
    refine ⟨d.wholeDigits, ['0'], by simp [positional, empty], nonempty, by simp, digits,
      List.forall_mem_singleton.mpr rfl,
      digitsValue_parts (Nat.add_sub_cancel' (by simp; omega)) ?_⟩
    rw [empty] at low
    rw [← parts, denominator, ← low]
    simp [digitsValue]
  case neg =>
    refine ⟨d.wholeDigits, d.fractionDigits, by simp [positional, empty], nonempty, empty, digits,
      lowDigits, digitsValue_parts count ?_⟩
    rw [low]
    exact parts

end Decimal

namespace Double

open Text

theorem sideDigits_eq (digits : ∀ c ∈ chars, c.isDigit = true) : sideDigits chars = some chars := by
  cases chars with
  | nil => rfl
  | cons c rest => exact plainDigits_eq digits (by simp)

theorem word_ne_of_numeral {chars : List Char} (word : String)
    (numeral : ∀ c ∈ chars, Lexeme.isNumeralChar c = true)
    (other : word.toList.all Lexeme.isNumeralChar = false) :
    String.ofList (chars.map Char.toLower) ≠ word := by
  rintro rfl
  have same : chars.map Char.toLower = chars := by
    refine (List.map_congr_left fun c member => ?_).trans (List.map_id chars)
    exact numeral_forall (fun c => c.toLower = c) (by decide) (by decide) (numeral c member)
  rw [String.toList_ofList, same, List.all_eq_true.mpr numeral] at other
  contradiction

/-- Digits and points are read without a sign and not as a word. -/
theorem read?_numeral (numeral : ∀ c ∈ chars, Lexeme.isNumeralChar c = true) :
    read? (String.ofList chars) = (readDecimal chars).map (Decimal.nearest false) := by
  simp only [read?, numeralChars_ofList numeral, takeSign_eq numeral]
  simp [word_ne_of_numeral "inf" numeral (by decide),
    word_ne_of_numeral "infinity" numeral (by decide),
    word_ne_of_numeral "nan" numeral (by decide)]

/-- Digits, a point and digits read as the number nearest to their value. -/
theorem read?_point (wholeDigits : ∀ c ∈ whole, c.isDigit = true)
    (fractionDigits : ∀ c ∈ fraction, c.isDigit = true) (some : whole ≠ []) :
    read? (String.ofList (whole ++ '.' :: fraction)) =
      .some (Decimal.nearest false ⟨digitsValue (whole ++ fraction), -(fraction.length : Int)⟩) := by
  have numeral : ∀ c ∈ whole ++ '.' :: fraction, Lexeme.isNumeralChar c = true := by
    intro c member
    rcases List.mem_append.mp member with digit | member
    · exact isNumeralChar_of_isDigit (wholeDigits c digit)
    · rcases List.mem_cons.mp member with rfl | digit
      · rfl
      · exact isNumeralChar_of_isDigit (fractionDigits c digit)
  have unmarked : ∀ c ∈ whole ++ '.' :: fraction, (!(c = 'e' || c = 'E')) = true :=
    fun c member => numeral_forall (fun c => (!(c = 'e' || c = 'E')) = true) (by decide) (by decide)
      (numeral c member)
  have before : ∀ c ∈ whole, decide (c ≠ '.') = true := by
    intro c member
    refine decide_eq_true ?_
    rintro rfl
    exact absurd (wholeDigits '.' member) (by decide)
  have mantissa := @List.takeWhile_append_of_pos _ _ _ [] unmarked
  have rest := @List.dropWhile_append_of_pos _ _ _ [] unmarked
  simp only [List.append_nil, List.takeWhile_nil, List.dropWhile_nil] at mantissa rest
  simp only [read?_numeral numeral, readDecimal, mantissa, rest, List.takeWhile_append_of_pos before,
    List.dropWhile_append_of_pos before]
  simp [sideDigits_eq wholeDigits, sideDigits_eq fractionDigits, some]

end Double

namespace Binary64

/-- A number without a sign is written as digits, a point and digits, and reads back. -/
theorem write_spec {x : Binary64} (plain : x.negative = false) : ∃ whole fraction,
    x.write = String.ofList (whole ++ '.' :: fraction) ∧ whole ≠ [] ∧ fraction ≠ [] ∧
      (∀ c ∈ whole, c.isDigit = true) ∧ (∀ c ∈ fraction, c.isDigit = true) ∧
      Double.read? x.write = some (.finite x) := by
  obtain ⟨whole, fraction, text, nonempty, some, wholeDigits, fractionDigits, value⟩ :=
    x.shortest.positional_spec
  have written : x.write = String.ofList (whole ++ '.' :: fraction) := by
    simp [write, plain, text]
  refine ⟨whole, fraction, written, nonempty, some, wholeDigits, fractionDigits, ?_⟩
  have same : Decimal.nearest false
      ⟨Text.digitsValue (whole ++ fraction), -(fraction.length : Int)⟩ = .finite x := by
    refine Decimal.nearest_congr (plain ▸ x.nearest_shortest) (by simp) ?_
    simpa [Decimal.numerator, Decimal.denominator] using value
  rw [written, Double.read?_point wholeDigits fractionDigits nonempty, same]

/-- Rounding does not look at the sign. -/
theorem nearest_sign (d : Decimal) (negative other : Bool) (magnitude : Fin magnitudeCount) :
    d.nearest negative = .finite ⟨negative, magnitude⟩ ↔
      d.nearest other = .finite ⟨other, magnitude⟩ := by
  have ratio : ∀ numerator denominator,
      Double.ofRatio negative numerator denominator = .finite ⟨negative, magnitude⟩ ↔
        Double.ofRatio other numerator denominator = .finite ⟨other, magnitude⟩ := by
    intro numerator denominator
    by_cases small : nearestIndex numerator denominator < magnitudeCount
    · simp [Double.ofRatio, small]
    · simp [Double.ofRatio, small]
  unfold Decimal.nearest
  split
  · simp [signedZero]
  split
  · simp
  split
  · simp [signedZero]
  split
  · exact ratio _ _
  · exact ratio _ _

theorem search_abs (x : Binary64) (shift : Nat) : x.abs.search shift = x.search shift := by
  have same : x.abs.readsBack = x.readsBack := by
    funext d
    exact decide_eq_decide.mpr (nearest_sign d false x.negative x.magnitude)
  induction shift with
  | zero => rfl
  | succ shift ih =>
    rw [search, search, ih, neighbour?, neighbour?, same]
    rfl

/-- A negative number is written as its size with a sign in front. -/
theorem write_of_negative {x : Binary64} (negative : x.negative = true) :
    x.write = "-" ++ x.abs.write := by
  have same : x.abs.shortest = x.shortest := x.search_abs _
  have plain : x.abs.write = x.abs.shortest.positional := String.empty_append
  rw [plain, same, write, if_pos negative]

end Binary64

end PiecewiseLang
