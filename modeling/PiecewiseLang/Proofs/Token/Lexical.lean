import PiecewiseLang.Proofs.Binary64.ReadBack
import PiecewiseLang.Proofs.Parsing.Passage

/-! What scanning promises of the words it makes. A name is spelled like a name, a numeral
reads as a number in range, and every other word is told apart by its kind. A lexeme takes the
characters of its text, or the one that stands for it. -/
namespace PiecewiseLang

namespace Lexeme

/-- Whether characters are a letter followed by letters, digits and underscores. -/
def isWord : List Char → Bool
  | [] => false
  | c :: rest => c.isAlpha && rest.all isWordChar

/-- Whether a text can name something: it is a word and no keyword. -/
def isName (s : String) : Bool := isWord s.toList && (keywords.lookup s).isNone

/-- The kinds whose words say more than their kind does, and the end of input. -/
def isOpen : TokenKind → Bool
  | .endOfInput | .name | .integer | .real => true
  | _ => false

theorem lookup_forall [BEq α] [LawfulBEq α] {table : List (α × β)} (holds : β → Prop)
    (all : ∀ entry ∈ table, holds entry.2) (found : table.lookup a = some b) : holds b := by
  obtain ⟨before, after, split, -⟩ := List.lookup_eq_some_iff.mp found
  exact all (a, b) (by simp [split])

theorem lookup_closed [BEq α] [LawfulBEq α] {table : List (α × TokenKind)} {kind : TokenKind}
    (all : ∀ entry ∈ table, isOpen entry.2 = false) (found : table.lookup a = some kind) :
    isOpen kind = false := lookup_forall (fun kind => isOpen kind = false) all found

end Lexeme

namespace Word

open Lexeme

/-- What is known of a word that was scanned. -/
def Lexical (w : Word) : Prop :=
  match w.kind with
  | .endOfInput => False
  | .name => isName w.text = true
  | .integer => ∃ n : Nat, n ≤ integerMax ∧ Text.readInteger w.text = some (n : Int)
  | .real => ∃ x : Binary64, x.negative = false ∧ Double.read? w.text = some (.finite x)
  | _ => True

theorem lexical_of_closed {w : Word} (closed : isOpen w.kind = false) : w.Lexical := by
  unfold Lexical
  split <;> first | trivial | (rename_i kind; rw [kind] at closed; cases closed)

theorem Lexical.inside {w : Word} (lexical : w.Lexical) : w.kind ≠ .endOfInput := by
  intro ended
  simp [Lexical, ended] at lexical

end Word

namespace Lexeme

/-- The word of a lexeme. -/
def toWord (l : Lexeme) : Word := ⟨l.kind, l.text⟩

theorem word_lexical (spelled : isWord chars = true) : (word chars).toWord.Lexical := by
  cases found : keywords.lookup (String.ofList chars) with
  | none =>
    have kind : (word chars).toWord = ⟨.name, String.ofList chars⟩ := by
      simp [word, toWord, verbatim, found]
    rw [kind]
    simp [Word.Lexical, isName, spelled, found]
  | some kind =>
    have closed : isOpen kind = false := lookup_closed (by decide) found
    exact Word.lexical_of_closed (by simpa [word, toWord, verbatim, found] using closed)

theorem real_lexical (numeral : ∀ c ∈ chars, isNumeralChar c = true)
    (read : Double.read? (String.ofList chars) = some (.finite x)) :
    (verbatim .real chars).toWord.Lexical := by
  refine ⟨x, ?_, read⟩
  rw [Double.read?_numeral numeral, Option.map_eq_some_iff] at read
  obtain ⟨d, -, nearest⟩ := read
  exact Decimal.nearest_negative nearest

/-- A numeral without a point is a run of digits. -/
theorem isDigit_of_noPoint {chars : List Char} (numeral : ∀ c ∈ chars, isNumeralChar c = true)
    (noPoint : ¬chars.contains '.' = true) : ∀ c ∈ chars, c.isDigit = true := by
  intro c member
  refine (Bool.or_eq_true_iff.mp (numeral c member)).resolve_right fun point => noPoint ?_
  exact List.contains_iff_mem.mpr (of_decide_eq_true point ▸ member)

theorem numeral_lexical (numeral : ∀ c ∈ chars, isNumeralChar c = true) (some : chars ≠ [])
    (scanned : Lexeme.numeral chars = .ok l) : l.toWord.Lexical := by
  unfold Lexeme.numeral at scanned
  extract_lets real at scanned
  have known : real = verbatim .illegal chars ∨ real = verbatim .real chars ∧
      ∃ x, Double.read? (String.ofList chars) = .some (.finite x) := by
    unfold real
    split
    case h_1 x read => exact .inr ⟨rfl, x, read⟩
    case h_2 => exact .inl rfl
  -- Its value is what was just said of it; reading the numeral would evaluate powers of ten.
  clear_value real
  have isReal : real.toWord.Lexical := by
    obtain rfl | ⟨rfl, x, read⟩ := known
    · exact Word.lexical_of_closed rfl
    · exact real_lexical numeral read
  split at scanned
  case isTrue => cases scanned; exact isReal
  case isFalse noPoint =>
    split at scanned
    case isTrue => cases scanned
    case isFalse short =>
      split at scanned
      case isFalse => cases scanned; exact isReal
      case isTrue small =>
        cases scanned
        have digits := isDigit_of_noPoint numeral noPoint
        exact ⟨_, small, Text.readInteger_ofList digits some (Nat.not_lt.mp short)⟩

theorem mark_closed (c : Char) (rest : List Char) : isOpen (mark c rest).kind = false := by
  have single : isOpen (single c).kind = false := by
    cases found : singles.lookup c with
    | none => simp [Lexeme.single, verbatim, found, isOpen]
    | some kind =>
      have closed : isOpen kind = false := lookup_closed (by decide) found
      simpa [Lexeme.single, verbatim, found] using closed
  unfold mark
  split
  case h_1 kind text found =>
    exact lookup_forall (fun entry => isOpen entry.1 = false) (by decide) found
  case h_2 => exact single
  case h_3 d more _ =>
    split
    case h_1 kind found => exact lookup_closed (by decide) found
    case h_2 => exact single
    case h_3 third kind _ found =>
      have closed : isOpen kind = false :=
        lookup_forall (fun entry => isOpen entry.2 = false) (by decide) found
      split
      case h_1 => rfl
      case h_2 e _ =>
        simp only [verbatim]
        split
        · exact closed
        · rfl

theorem isNumeralChar_run (first : isNumeralChar c = true) (rest : List Char) :
    ∀ d ∈ c :: rest.takeWhile isNumeralChar, isNumeralChar d = true :=
  List.forall_mem_cons.mpr ⟨first, List.all_eq_true.mp List.all_takeWhile⟩

/-- Everything scanned is a word of the language, and none ends the input. -/
theorem scan_lexical (scanned : scan c rest = .ok l) : l.toWord.Lexical := by
  unfold scan at scanned
  split at scanned
  case isTrue letter =>
    cases scanned
    refine word_lexical ?_
    simp [isWord, letter, List.all_takeWhile]
  case isFalse =>
    split at scanned
    case isTrue => cases scanned; exact Word.lexical_of_closed rfl
    case isFalse =>
      split at scanned
      case isTrue first =>
        exact numeral_lexical (isNumeralChar_run first rest) (List.cons_ne_nil _ _) scanned
      case isFalse => cases scanned; exact Word.lexical_of_closed (mark_closed c rest)

/-- The text that characters of a source are read as: a single one may be an alias. -/
def spelling : List Char → List Char
  | [c] => ((aliases.lookup c).map (·.2.toList)).getD [c]
  | chars => chars

theorem spelling_plain (plain : aliases.lookup c = none) (run : List Char) :
    spelling (c :: run) = c :: run := by
  cases run with
  | nil => simp [spelling, plain]
  | cons => rfl

/-- No character of words or numerals is an alias. -/
theorem alias_none (ordinary : isWordChar c = true ∨ isNumeralChar c = true) :
    aliases.lookup c = none := by
  have all : ∀ entry ∈ aliases, isWordChar entry.1 = false ∧ isNumeralChar entry.1 = false := by
    decide
  refine List.lookup_eq_none_iff.mpr fun entry member => bne_iff_ne.mpr ?_
  rintro rfl
  obtain ⟨noWord, noNumeral⟩ := all entry member
  simp [noWord, noNumeral] at ordinary

/-- The lexeme is made of the first characters of a text and has the text these are read as. -/
def Begins (l : Lexeme) (chars : List Char) : Prop :=
  ∃ slice, slice ≠ [] ∧ slice <+: chars ∧ l.width = slice.length ∧ l.text.toList = spelling slice

theorem verbatim_begins (plain : aliases.lookup c = none) (begins : c :: run <+: chars)
    (kind : TokenKind) : (verbatim kind (c :: run)).Begins chars := by
  refine ⟨_, List.cons_ne_nil _ _, begins, rfl, ?_⟩
  rw [spelling_plain plain]
  exact String.toList_ofList

theorem mark_begins (c : Char) (rest : List Char) : (mark c rest).Begins (c :: rest) := by
  cases known : aliases.lookup c with
  | some entry =>
    have made : mark c rest = ⟨entry.1, entry.2, 1⟩ := by simp only [mark, known]
    rw [made]
    exact ⟨[c], List.cons_ne_nil _ _, ⟨rest, rfl⟩, rfl, by simp [spelling, known]⟩
  | none =>
    unfold mark
    split
    case h_1 found => cases known.symm.trans found
    case h_2 => exact verbatim_begins known ⟨_, rfl⟩ _
    case h_3 =>
      split
      · exact verbatim_begins known ⟨_, rfl⟩ _
      · exact verbatim_begins known ⟨_, rfl⟩ _
      · split <;> exact verbatim_begins known ⟨_, rfl⟩ _

theorem numeral_verbatim (read : numeral chars = .ok l) : ∃ kind, l = verbatim kind chars := by
  unfold numeral at read
  extract_lets real at read
  have known : ∃ kind, real = verbatim kind chars := by
    unfold real
    split <;> exact ⟨_, rfl⟩
  clear_value real
  split at read
  · cases read
    exact known
  split at read
  · cases read
  split at read
  · cases read
    exact ⟨_, rfl⟩
  · cases read
    exact known

/-- Every lexeme is made of characters at the front of the text, at least one. -/
theorem scan_begins (scanned : scan c rest = .ok l) : l.Begins (c :: rest) := by
  have run : ∀ p : Char → Bool, c :: rest.takeWhile p <+: c :: rest := fun p =>
    List.cons_prefix_cons.mpr ⟨rfl, List.takeWhile_prefix p⟩
  unfold scan at scanned
  split at scanned
  case isTrue letter =>
    cases scanned
    exact verbatim_begins (alias_none (.inl (by simp [isWordChar, Char.isAlphanum, letter]))) (run _) _
  split at scanned
  case isTrue digits =>
    cases scanned
    have digit := (Bool.and_eq_true_iff.mp digits).1
    exact verbatim_begins (alias_none (.inr (by simp [isNumeralChar, digit]))) (run _) _
  split at scanned
  case isTrue first =>
    obtain ⟨kind, rfl⟩ := numeral_verbatim scanned
    exact verbatim_begins (alias_none (.inr first)) (run _) _
  case isFalse =>
    cases scanned
    exact mark_begins c rest

/-- A lexeme is not longer than its text. -/
theorem scan_width (scanned : scan c rest = .ok l) : l.width ≤ rest.length + 1 := by
  obtain ⟨slice, -, begins, width, -⟩ := scan_begins scanned
  rw [width]
  exact begins.length_le

/-- A run of digits somewhere in a text that is longer than integers may be as text. -/
def Overlong (chars : List Char) : Prop :=
  ∃ digits, digits <:+: chars ∧ (∀ c ∈ digits, c.isDigit = true) ∧ Text.digitLimit < digits.length

theorem Overlong.of_infix (overlong : Overlong part) (inside : part <:+: chars) :
    Overlong chars := by
  obtain ⟨digits, within, rest⟩ := overlong
  exact ⟨digits, within.trans inside, rest⟩

theorem numeral_fault (numeral : ∀ c ∈ chars, isNumeralChar c = true)
    (failed : Lexeme.numeral chars = .error fault) : fault = .overlongInteger ∧ Overlong chars := by
  unfold Lexeme.numeral at failed
  extract_lets real at failed
  clear_value real
  split at failed
  case isTrue => cases failed
  case isFalse noPoint =>
    split at failed
    case isTrue long =>
      cases failed
      exact ⟨rfl, chars, List.infix_rfl, isDigit_of_noPoint numeral noPoint, long⟩
    case isFalse => split at failed <;> cases failed

/-- Scanning breaks down on overlong runs of digits and on nothing else. -/
theorem scan_fault (failed : scan c rest = .error fault) :
    fault = .overlongInteger ∧ Overlong (c :: rest) := by
  unfold scan at failed
  split at failed
  case isTrue => cases failed
  case isFalse =>
    split at failed
    case isTrue => cases failed
    case isFalse =>
      split at failed
      case isTrue first =>
        obtain ⟨same, overlong⟩ := numeral_fault (isNumeralChar_run first rest) failed
        have run : c :: rest.takeWhile isNumeralChar <+: c :: rest :=
          List.cons_prefix_cons.mpr ⟨rfl, List.takeWhile_prefix isNumeralChar⟩
        exact ⟨same, overlong.of_infix run.isInfix⟩
      case isFalse => cases failed

end Lexeme

end PiecewiseLang
