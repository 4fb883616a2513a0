import PiecewiseLang.Proofs.Parsing.Reading
import PiecewiseLang.Proofs.Token.Spelling

/-! Fragments of text that are scanned as one word each. A word or a numeral needs a boundary
behind it, a bracket or a separator stands for itself whatever follows, and an operator is
followed by a blank. -/
namespace PiecewiseLang

open Lexeme (scan verbatim keywords isWord isWordChar isNumeralChar)

/-- Whether a text can follow a word or a numeral without becoming a part of it. -/
def isBoundary (chars : List Char) : Bool := chars.head?.all fun c => !isWordChar c && c ≠ '.'

theorem takeWhile_eq_of_stop {p : Char → Bool} {first rest : List Char}
    (inner : ∀ c ∈ first, p c = true)
    (stop : rest.head?.all (!p ·) = true) :
    (first ++ rest).takeWhile p = first ∧ (first ++ rest).dropWhile p = rest := by
  rw [List.takeWhile_append_of_pos inner, List.dropWhile_append_of_pos inner]
  cases rest with
  | nil => simp
  | cons c rest => simp_all

theorem stop_word_of_boundary (boundary : isBoundary rest = true) :
    rest.head?.all (!isWordChar ·) = true := by
  cases rest <;> simp_all [isBoundary]

theorem stop_numeral_of_boundary (boundary : isBoundary rest = true) :
    rest.head?.all (!isNumeralChar ·) = true := by
  cases rest <;> simp_all [isBoundary, isNumeralChar, isWordChar, Char.isAlphanum]

/-- The digits at the front of a numeral do not run into a word. -/
theorem digits_run_into_none (numeral : ∀ c ∈ chars, isNumeralChar c = true)
    (boundary : isBoundary rest = true) :
    ((chars ++ rest).dropWhile Char.isDigit).head?.any isWordChar = false := by
  induction chars with
  | nil =>
    cases rest with
    | nil => rfl
    | cons d rest =>
      simp_all [isBoundary, isWordChar, Char.isAlphanum]
  | cons c chars ih =>
    by_cases digit : c.isDigit = true
    · rw [List.cons_append, List.dropWhile_cons_of_pos digit]
      exact ih fun d member => numeral d (List.mem_cons_of_mem c member)
    · have point : c = '.' := by simpa [isNumeralChar, digit] using numeral c (List.mem_cons_self ..)
      subst point
      rfl

/-- A run of digits and points is scanned as a whole. -/
theorem scan_numeral (numeral : ∀ d ∈ c :: chars, isNumeralChar d = true)
    (boundary : isBoundary rest = true) :
    scan c (chars ++ rest) = Lexeme.numeral (c :: chars) := by
  have first : isNumeralChar c = true := numeral c (List.mem_cons_self ..)
  have inner : ∀ d ∈ chars, isNumeralChar d = true := fun d member =>
    numeral d (List.mem_cons_of_mem c member)
  have letter : c.isAlpha = false :=
    Text.numeral_forall (fun c => c.isAlpha = false) (by decide) (by decide) first
  rw [scan, digits_run_into_none inner boundary,
    (takeWhile_eq_of_stop inner (stop_numeral_of_boundary boundary)).1]
  simp [letter, first]

theorem length_toDigits_le (range : n ≤ Lexeme.integerMax) :
    (Nat.toDigits 10 n).length ≤ Text.digitLimit := by
  have short : (Nat.toDigits 10 n).length ≤ 19 :=
    (Nat.length_toDigits_le_iff (by decide) (by decide)).mpr (Nat.lt_of_le_of_lt range (by decide))
  exact Nat.le_trans short (by decide)

theorem numeral_toDigits (range : n ≤ Lexeme.integerMax) :
    Lexeme.numeral (Nat.toDigits 10 n) = .ok (verbatim .integer (Nat.toDigits 10 n)) := by
  have noPoint : (Nat.toDigits 10 n).contains '.' = false := by
    rw [List.contains_eq_mem, decide_eq_false_iff_not]
    intro point
    exact absurd (Text.isDigit_toDigits n '.' point) (by decide)
  have short := Nat.not_lt.mpr (length_toDigits_le range)
  simp only [Lexeme.numeral, noPoint, short, Text.digitsValue_toDigits, range, if_true,
    Bool.false_eq_true, if_false]

/-- A number without a sign is written as one numeral. -/
theorem numeral_write {x : Binary64} (plain : x.negative = false) : ∃ c chars,
    x.write = String.ofList (c :: chars) ∧ (∀ d ∈ c :: chars, isNumeralChar d = true) ∧
      Lexeme.numeral (c :: chars) = .ok (verbatim .real (c :: chars)) := by
  obtain ⟨whole, fraction, text, nonempty, -, wholeDigits, fractionDigits, read⟩ :=
    Binary64.write_spec plain
  obtain ⟨c, rest, rfl⟩ := List.exists_cons_of_ne_nil nonempty
  refine ⟨c, rest ++ '.' :: fraction, text, ?_, ?_⟩
  · rw [← List.cons_append]
    intro d member
    rcases List.mem_append.mp member with digit | member
    · exact Text.isNumeralChar_of_isDigit (wholeDigits d digit)
    · rcases List.mem_cons.mp member with rfl | digit
      · rfl
      · exact Text.isNumeralChar_of_isDigit (fractionDigits d digit)
  · have point : (c :: (rest ++ '.' :: fraction)).contains '.' = true := by simp
    rw [text, List.cons_append] at read
    simp only [Lexeme.numeral, read, point, if_true]

/-- The word that a character makes on its own. -/
def mark (c : Char) : Word := (Lexeme.single c).toWord

/-- Brackets and separators stand for themselves, whatever follows. -/
theorem scan_isolated (isolated : c ∈ ['(', ')', '{', '}', ',', ';', '|', '!']) (rest : List Char) :
    scan c rest = .ok (Lexeme.single c) := by
  simp only [List.mem_cons, List.not_mem_nil, or_false] at isolated
  rcases isolated with rfl | rfl | rfl | rfl | rfl | rfl | rfl | rfl <;> cases rest <;> rfl

theorem boundary_of_isolated (isolated : c ∈ ['(', ')', '{', '}', ',', ';', '|', '!']) :
    isBoundary (c :: rest) = true := by
  have all : ['(', ')', '{', '}', ',', ';', '|', '!'].all (isBoundary [·]) = true := by decide
  exact List.all_eq_true.mp all c isolated

theorem scan_minus (apart : rest.head? ≠ some '/') : scan '-' rest = .ok (Lexeme.single '-') := by
  cases rest with
  | nil => rfl
  | cons d rest =>
    have other : d ≠ '/' := by simpa using apart
    have double : Lexeme.doubles.lookup ('-', d) = none := rfl
    have triple : Lexeme.triples.lookup ('-', d) = none := by simp [Lexeme.triples, other]
    have plain : Lexeme.aliases.lookup '-' = none := rfl
    change Except.ok (Lexeme.mark '-' (d :: rest)) = _
    simp only [Lexeme.mark, plain, double, triple]

/-- The kind of the token that stands for a symbol. -/
def Symbol.kind (symbol : Symbol) : TokenKind :=
  (TokenKind.all.find? (·.infixSymbol? = some symbol)).getD .bang

theorem Symbol.infixSymbol_kind (symbol : Symbol) (other : symbol ≠ .factorial) :
    symbol.kind.infixSymbol? = some symbol := by
  cases symbol with
  | factorial => exact absurd rfl other
  | _ => rfl

/-- Before a blank the text of a symbol is scanned as that symbol. -/
theorem scan_symbol (symbol : Symbol) (rest : List Char) : ∃ c chars,
    symbol.text.toList = c :: chars ∧ (Text.isBlank c = false ∧ c ≠ '#') ∧
      scan c (chars ++ ' ' :: rest) = .ok ⟨symbol.kind, symbol.text, chars.length + 1⟩ := by
  cases symbol <;> exact ⟨_, _, rfl, by decide, rfl⟩

namespace Spells

/-- A text whose first lexeme takes exactly some characters. -/
theorem token (visible : Text.isBlank c = false ∧ c ≠ '#')
    (scanned : scan c (chars ++ rest) = .ok ⟨kind, text, chars.length + 1⟩)
    (spelled : Spells rest words) : Spells (c :: chars ++ rest) (⟨kind, text⟩ :: words) := by
  refine .more (code_cons visible.1 visible.2) scanned ?_
  simpa using spelled

theorem word (text : String) (spelling : isWord text.toList = true) (boundary : isBoundary rest = true)
    (spelled : Spells rest words) :
    Spells (text.toList ++ rest) (⟨(keywords.lookup text).getD .name, text⟩ :: words) := by
  cases chars : text.toList with
  | nil => rw [chars] at spelling; cases spelling
  | cons c cs =>
    rw [chars, isWord, Bool.and_eq_true, List.all_eq_true] at spelling
    obtain ⟨letter, inner⟩ := spelling
    have same : String.ofList (c :: cs) = text := by rw [← chars, String.ofList_toList]
    refine token (visible_of_alphanum (by simp [Char.isAlphanum, letter])) ?_ spelled
    rw [scan, if_pos letter, (takeWhile_eq_of_stop inner (stop_word_of_boundary boundary)).1, Lexeme.word,
      verbatim, same, List.length_cons]

/-- A numeral that is scanned on its own is scanned before a boundary. -/
theorem numeral (digits : ∀ c ∈ chars, isNumeralChar c = true) (some : chars ≠ [])
    (scanned : Lexeme.numeral chars = .ok (verbatim kind chars))
    (boundary : isBoundary rest = true) (spelled : Spells rest words) :
    Spells (chars ++ rest) (⟨kind, String.ofList chars⟩ :: words) := by
  cases chars with
  | nil => exact absurd rfl some
  | cons c chars =>
    have visible : Text.isBlank c = false ∧ c ≠ '#' :=
      Text.numeral_forall (fun c => Text.isBlank c = false ∧ c ≠ '#') (by decide) (by decide)
        (digits c (List.mem_cons_self ..))
    exact token visible ((scan_numeral digits boundary).trans scanned) spelled

theorem isolated (c : Char) (isolated : c ∈ ['(', ')', '{', '}', ',', ';', '|', '!'])
    (spelled : Spells rest words) : Spells (c :: rest) (mark c :: words) := by
  have all : ['(', ')', '{', '}', ',', ';', '|', '!'].all
      (fun c => Text.isBlank c = false ∧ c ≠ '#') = true := by decide
  have visible := of_decide_eq_true (List.all_eq_true.mp all c isolated)
  exact @token _ [] _ _ _ _ visible (scan_isolated isolated rest) spelled

theorem minus (apart : rest.head? ≠ some '/') (spelled : Spells rest words) :
    Spells ('-' :: rest) (mark '-' :: words) :=
  @token _ [] _ _ _ _ (by decide) (scan_minus apart) spelled

theorem symbol (symbol : Symbol) (spelled : Spells rest words) :
    Spells (symbol.text.toList ++ ' ' :: rest) (⟨symbol.kind, symbol.text⟩ :: words) := by
  obtain ⟨c, chars, text, visible, scanned⟩ := scan_symbol symbol rest
  rw [text]
  exact token visible scanned (spelled.blank rfl)

theorem assign (spelled : Spells rest words) :
    Spells ('=' :: ' ' :: rest) (mark '=' :: words) :=
  @token _ [] _ _ _ _ (by decide) rfl (spelled.blank rfl)

end Spells

end PiecewiseLang
