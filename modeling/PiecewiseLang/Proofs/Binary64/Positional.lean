import PiecewiseLang.Proofs.Binary64.Shortest
import PiecewiseLang.Proofs.Token.Composition
import PiecewiseLang.Proofs.Token.Fragments

/-! The written form of a number as a numeral with a point. It has no exponent, stands exactly for
the shortest decimal of the number, and is a single token where it has no sign. -/
namespace PiecewiseLang

open Lexeme (scan verbatim isNumeralChar)
open Text (digitsValue digitsValue_append)

/-- The value with the given sign and size. -/
def signed (negative : Bool) (size : ℚ) : ℚ := if negative then -size else size

/-- Digits on both sides of a point, with or without a minus in front. -/
structure Positional where
  negative : Bool
  whole : List Char
  fraction : List Char
  whole_ne_nil : whole ≠ []
  fraction_ne_nil : fraction ≠ []
  isDigit_whole : ∀ c ∈ whole, c.isDigit = true
  isDigit_fraction : ∀ c ∈ fraction, c.isDigit = true

namespace Positional

def text (p : Positional) : String :=
  (if p.negative then "-" else "") ++ String.ofList (p.whole ++ '.' :: p.fraction)

/-- The number a numeral stands for. Each place after the point counts a tenth of the one before. -/
def value (p : Positional) : ℚ :=
  signed p.negative (digitsValue p.whole + digitsValue p.fraction / 10 ^ p.fraction.length)

end Positional

/-- Digits on both sides of a point are those on either side of it together, over a power of ten. -/
theorem digitsValue_point (whole fraction : List Char) :
    (digitsValue whole + digitsValue fraction / 10 ^ fraction.length : ℚ) =
      digitsValue (whole ++ fraction) / 10 ^ fraction.length := by
  have power : (10 : ℚ) ^ fraction.length ≠ 0 := pow_ne_zero _ (by norm_num)
  rw [digitsValue_append, Nat.cast_add, Nat.cast_mul, Nat.cast_pow, Nat.cast_ofNat, add_div,
    mul_div_cancel_right₀ _ power]

/-- A decimal is written as the numeral that stands for it, whichever sign is put in front. -/
theorem Decimal.positional_exact (d : Decimal) (negative : Bool) : ∃ p : Positional,
    p.text = (if negative then "-" else "") ++ d.positional ∧ p.negative = negative ∧
      p.value = signed negative d.rational := by
  obtain ⟨whole, fraction, text, nonempty, some, wholeDigits, fractionDigits, cross⟩ :=
    d.positional_spec
  refine ⟨⟨negative, whole, fraction, nonempty, some, wholeDigits, fractionDigits⟩, ?_, rfl, ?_⟩
  · rw [text, Positional.text]
  · have denominator : (d.denominator : ℚ) ≠ 0 := Nat.cast_ne_zero.mpr d.denominator_pos.ne'
    have power : (10 : ℚ) ^ fraction.length ≠ 0 := pow_ne_zero _ (by norm_num)
    have size : (digitsValue (whole ++ fraction) / 10 ^ fraction.length : ℚ) = d.rational := by
      rw [d.rational_eq_div, div_eq_div_iff power denominator]
      exact_mod_cast cross
    rw [Positional.value, digitsValue_point, size]

/-- A text that is one numeral is one token. -/
theorem tokenize_numeral (numeral : ∀ d ∈ c :: chars, isNumeralChar d = true)
    (scanned : Lexeme.numeral (c :: chars) = .ok (verbatim kind (c :: chars))) :
    tokenize (String.ofList (c :: chars)) = .ok [⟨kind, String.ofList (c :: chars), 0⟩,
      ⟨.endOfInput, "", (String.ofList (c :: chars)).length⟩] := by
  have visible : Text.isBlank c = false ∧ c ≠ '#' :=
    Text.numeral_forall (fun c => Text.isBlank c = false ∧ c ≠ '#') (by decide) (by decide)
      (numeral c (List.mem_cons_self ..))
  have found : skipTrivia false 0 (c :: chars) = (0, c :: chars) := by
    rw [skipTrivia, if_neg (Bool.eq_false_iff.mp visible.1), if_neg visible.2]
  have whole : scan c (chars ++ []) = .ok (verbatim kind (c :: chars)) :=
    (scan_numeral numeral rfl).trans scanned
  rw [List.append_nil] at whole
  have behind : chars.drop ((c :: chars).length - 1) = [] := by simp
  rw [tokenize_iff_lexes, String.toList_ofList, String.length_ofList]
  refine .token found whole ?_
  rw [verbatim, behind, Nat.zero_add]
  exact .ended rfl

/-- Every number has a shortest decimal. Its written form is a numeral with a point that stands for
exactly that decimal and, where the number has no sign, the text of one token. -/
theorem reals_are_written_positionally (x : Binary64) : (∃ d, x.IsShortest d) ∧
    ∀ (significand : Nat) (exponent : ℤ), x.IsShortest ⟨significand, exponent⟩ →
      (∃ p : Positional, p.text = (Double.finite x).write ∧ p.negative = x.negative ∧
        p.value = signed x.negative (significand * 10 ^ exponent)) ∧
      (x.negative = false → tokenize (Double.finite x).write =
        .ok [⟨.real, (Double.finite x).write, 0⟩,
          ⟨.endOfInput, "", (Double.finite x).write.length⟩]) := by
  refine ⟨⟨_, x.isShortest_shortest⟩, fun significand exponent shortest => ⟨?_, fun plain => ?_⟩⟩
  · have same := x.isShortest_shortest.unique shortest
    obtain ⟨p, text, sign, value⟩ := x.shortest.positional_exact x.negative
    rw [same] at value
    exact ⟨p, text, sign, value⟩
  · obtain ⟨c, chars, text, numeral, scanned⟩ := numeral_write plain
    rw [Double.write, text]
    exact tokenize_numeral numeral scanned

/-- A number whose digits begin several places behind the point. -/
theorem reals_are_written_positionally_sample :
    let x : Binary64 := ⟨false, 4493141015233605448⟩
    x.IsShortest ⟨25, -9⟩ ∧ (Double.finite x).write = "0.000000025" ∧
      (∃ p : Positional, p.text = "0.000000025" ∧ p.negative = false ∧
        p.value = 25 * 10 ^ (-9 : ℤ)) ∧
      tokenize "0.000000025" = .ok [⟨.real, "0.000000025", 0⟩, ⟨.endOfInput, "", 11⟩] := by
  intro x
  have found : x.shortest = ⟨25, -9⟩ := by decide +kernel
  have shortest : x.IsShortest ⟨25, -9⟩ := found ▸ x.isShortest_shortest
  have written : (Double.finite x).write = "0.000000025" := by
    rw [Double.write, Binary64.write, found]
    decide +kernel
  obtain ⟨⟨p, text, sign, value⟩, token⟩ := (reals_are_written_positionally x).2 25 (-9) shortest
  rw [written] at text token
  exact ⟨shortest, written, ⟨p, text, sign, value⟩, token rfl⟩

end PiecewiseLang
