import Mathlib.Algebra.Group.Nat.Defs
import PiecewiseLang.Token.Lexeme

/-! Numerals made of plain digits and points. Such a text has no blanks to trim, no sign and
no digits of other scripts, so reading it comes down to the value of its digits. -/
namespace PiecewiseLang

namespace Text

/-- What holds of the point and of the ten digits holds of every character of a numeral. -/
theorem numeral_forall (holds : Char → Prop) (point : holds '.')
    (digit : ∀ n < 10, holds (Char.ofNat (48 + n))) (numeral : Lexeme.isNumeralChar c = true) :
    holds c := by
  rcases Bool.or_eq_true_iff.mp numeral with isDigit | isPoint
  · obtain ⟨low, high⟩ := Char.isDigit_iff_toNat.mp isDigit
    change 48 ≤ c.toNat at low
    change c.toNat ≤ 57 at high
    have this := digit (c.toNat - 48) (by omega)
    rwa [Nat.add_sub_cancel' low, Char.ofNat_toNat] at this
  · exact of_decide_eq_true isPoint ▸ point

theorem trimmed_eq_self (inner : ∀ c ∈ chars, isOuter c = false) : trimmed isOuter chars = chars := by
  have unchanged : ∀ list : List Char, (∀ c ∈ list, isOuter c = false) →
      list.dropWhile isOuter = list := by
    intro list inner
    cases list with
    | nil => rfl
    | cons c rest => exact List.dropWhile_cons_of_neg (by simp [inner c])
  have reversed : ∀ c ∈ chars.reverse, isOuter c = false := fun c member =>
    inner c (List.mem_reverse.mp member)
  rw [trimmed, unchanged chars inner, unchanged chars.reverse reversed, List.reverse_reverse]

theorem not_isWhiteSpace (numeral : Lexeme.isNumeralChar c = true) : isWhiteSpace c = false :=
  numeral_forall (isWhiteSpace · = false) (by decide) (by decide) numeral

theorem asciiDigit_eq_self (numeral : Lexeme.isNumeralChar c = true) : asciiDigit c = c :=
  numeral_forall (fun c => asciiDigit c = c) (by decide) (by decide) numeral

theorem numeralChars_ofList (numeral : ∀ c ∈ chars, Lexeme.isNumeralChar c = true) :
    numeralChars (String.ofList chars) = chars := by
  rw [numeralChars, String.toList_ofList,
    trimmed_eq_self fun c member => not_isWhiteSpace (numeral c member)]
  exact (List.map_congr_left fun c member => asciiDigit_eq_self (numeral c member)).trans
    (List.map_id chars)

theorem takeSign_eq (numeral : ∀ c ∈ chars, Lexeme.isNumeralChar c = true) :
    takeSign chars = (false, chars) := by
  unfold takeSign
  split
  · exact absurd (numeral '-' (List.mem_cons_self ..)) (by decide)
  · exact absurd (numeral '+' (List.mem_cons_self ..)) (by decide)
  · rfl

theorem plainDigits_eq (digits : ∀ c ∈ chars, c.isDigit = true) (some : chars ≠ []) :
    plainDigits chars = .some chars := by
  fun_induction plainDigits chars with
  | case1 => exact absurd rfl some
  | case2 => rfl
  | case3 c notDigit => exact absurd (digits c (List.mem_singleton_self c)) notDigit
  | case4 c rest => exact absurd (digits '_' (by simp)) (by decide)
  | case5 c rest => exact absurd (digits '_' (by simp)) (by decide)
  | case6 c rest several _ _ ih =>
    have others : rest ≠ [] := fun empty => several empty
    rw [ih (fun d member => digits d (List.mem_cons_of_mem c member)) others]
    rfl
  | case7 c rest _ _ notDigit => exact absurd (digits c (List.mem_cons_self ..)) notDigit

theorem isNumeralChar_of_isDigit {c : Char} (digit : c.isDigit = true) :
    Lexeme.isNumeralChar c = true := Bool.or_eq_true_iff.mpr (.inl digit)

theorem writeInteger_eq_none {n : Int} : writeInteger n = none ↔ 10 ^ digitLimit ≤ n.natAbs := by
  rw [writeInteger, Nat.pow_eq, ite_eq_right_iff]
  simp

/-- A run of digits reads as its value. -/
theorem readInteger_ofList (digits : ∀ c ∈ chars, c.isDigit = true) (some : chars ≠ [])
    (short : chars.length ≤ digitLimit) :
    readInteger (String.ofList chars) = .some (digitsValue chars : Int) := by
  have numeral : ∀ c ∈ chars, Lexeme.isNumeralChar c = true := fun c member =>
    isNumeralChar_of_isDigit (digits c member)
  simp only [readInteger, numeralChars_ofList numeral, takeSign_eq numeral,
    plainDigits_eq digits some, Option.bind_eq_bind, Option.bind_some, Nat.not_lt.mpr short, if_false,
    signedValue, Bool.false_eq_true]

theorem digitsValue_eq (digits : List Char) : digitsValue digits = Nat.ofDigitChars 10 digits 0 :=
  Nat.ofDigitChars_eq_foldl.symm

@[simp] theorem digitsValue_toDigits (n : Nat) : digitsValue (Nat.toDigits 10 n) = n := by
  rw [digitsValue_eq, Nat.ofDigitChars_ten_toDigits]

@[simp] theorem digitsValue_zeros (n : Nat) : digitsValue (List.replicate n '0') = 0 := by
  simp [digitsValue_eq]

theorem digitsValue_append (first second : List Char) :
    digitsValue (first ++ second) = digitsValue first * 10 ^ second.length + digitsValue second := by
  simp only [digitsValue_eq]
  rw [Nat.ofDigitChars_append, Nat.ofDigitChars_eq_ofDigitChars_zero, Nat.mul_comm]

theorem isDigit_toDigits (n : Nat) : ∀ c ∈ Nat.toDigits 10 n, c.isDigit = true := fun _ member =>
  Nat.isDigit_of_mem_toDigits (by decide) (by decide) member

end Text

end PiecewiseLang
