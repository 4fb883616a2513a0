import PiecewiseLang.Proofs.Parsing.Segments
import PiecewiseLang.Proofs.Token.Lines
import PiecewiseLang.Repl

/-! Where statements end, told from what is open. A statement leaves no group open, and every
semicolon in it but the last stands inside braces; so the words up to a semicolon outside all
groups are whole statements. -/
namespace PiecewiseLang

/-- Whether the grammar has a use for tokens of this kind at all. -/
def TokenKind.isUsed : TokenKind → Bool
  | .illegal | .colon => false
  | _ => true

theorem TokenKind.legal_of_used {words : List Word} (used : ∀ w ∈ words, w.kind.isUsed = true) :
    ∀ w ∈ words, w.kind ≠ .illegal := by
  intro w member illegal
  have known := used w member
  rw [illegal] at known
  cases known

/-- Whether a token of this kind neither opens nor closes a group and is no semicolon. -/
def TokenKind.isPlain (kind : TokenKind) : Bool :=
  kind.isUsed && kind ∉ [.leftParen, .rightParen, .leftBrace, .rightBrace, .bar, .semicolon]

theorem TokenKind.isPlain_of_prefixSymbol {kind : TokenKind}
    (found : kind.prefixSymbol? = some symbol) : kind.isPlain = true := by
  rcases prefixSymbol_cases found with ⟨rfl, -⟩ | ⟨rfl, -⟩ <;> rfl

theorem TokenKind.isPlain_of_infixSymbol {kind : TokenKind}
    (found : kind.infixSymbol? = some symbol) (other : symbol ≠ .call) : kind.isPlain = true := by
  cases kind <;> first | rfl | (cases found; exact absurd rfl other) | cases found

namespace Balance

def plus (a b : Balance) : Balance := ⟨a.parens + b.parens, a.braces + b.braces, a.bars + b.bars⟩

/-- What a single token opens and closes. -/
def ofKind (kind : TokenKind) : Balance := zero.add ⟨kind, "", 0⟩

/-- What some words open and close. -/
def tally (words : List Word) : Balance := words.foldr (fun w => (ofKind w.kind).plus) zero

@[simp] theorem tally_nil : tally [] = zero := rfl

@[simp] theorem tally_cons (w : Word) (words : List Word) :
    tally (w :: words) = (ofKind w.kind).plus (tally words) := rfl

theorem zero_plus (b : Balance) : zero.plus b = b := by simp [plus, zero]

theorem plus_assoc (a b c : Balance) : (a.plus b).plus c = a.plus (b.plus c) := by
  simp only [plus, Int.add_assoc, Nat.add_assoc]

@[simp] theorem tally_append (first second : List Word) :
    tally (first ++ second) = (tally first).plus (tally second) := by
  induction first with
  | nil => rw [List.nil_append, tally_nil, zero_plus]
  | cons w first ih => rw [List.cons_append, tally_cons, tally_cons, ih, plus_assoc]

theorem add_eq_plus (b : Balance) (t : Token) : b.add t = b.plus (ofKind t.kind) := by
  unfold add ofKind
  cases t.kind <;> simp [plus, zero, add, Int.sub_eq_add_neg]

theorem foldl_add (tokens : List Token) (b : Balance) :
    tokens.foldl add b = b.plus (tally (tokens.map Token.word)) := by
  induction tokens generalizing b with
  | nil => simp [plus, zero]
  | cons t tokens ih =>
    rw [List.foldl_cons, ih, add_eq_plus, List.map_cons, tally_cons, plus_assoc]
    rfl

theorem ofKind_plain {kind : TokenKind} (plain : kind.isPlain = true) : ofKind kind = zero := by
  cases kind <;> first | rfl | cases plain

/-- All words are of use, and the semicolons stand inside braces, `depth` of which are open at
the beginning. -/
def Guarded : (depth : Int) → List Word → Prop
  | _, [] => True
  | depth, w :: words => w.kind.isUsed = true ∧ (w.kind = .semicolon → 1 ≤ depth) ∧
      Guarded (depth + (ofKind w.kind).braces) words

theorem guarded_append : Guarded depth (first ++ second) ↔
    Guarded depth first ∧ Guarded (depth + (tally first).braces) second := by
  induction first generalizing depth with
  | nil => simp [Guarded, zero]
  | cons w first ih =>
    simp only [List.cons_append, Guarded, ih, tally_cons, plus, Int.add_assoc, and_assoc]

theorem Guarded.deeper (guarded : Guarded depth words) (le : depth ≤ depth') :
    Guarded depth' words := by
  induction words generalizing depth depth' with
  | nil => trivial
  | cons w words ih =>
    obtain ⟨used, inside, rest⟩ := guarded
    exact ⟨used, fun semicolon => Int.le_trans (inside semicolon) le,
      ih rest (Int.add_le_add_right le _)⟩

theorem Guarded.used (guarded : Guarded depth words) : ∀ w ∈ words, w.kind.isUsed = true := by
  induction words generalizing depth with
  | nil => exact nofun
  | cons w words ih =>
    intro v member
    rcases List.mem_cons.mp member with rfl | member
    · exact guarded.1
    · exact ih guarded.2.2 v member

/-- The words open so many parentheses and braces more than they close, with a number of bars
that is odd or even as given, and close braces only that stand open around their semicolons. -/
structure Level (parens braces : Int) (bars : Nat) (words : List Word) : Prop where
  parens_eq : (tally words).parens = parens
  braces_eq : (tally words).braces = braces
  bars_eq : (tally words).bars % 2 = bars % 2
  guarded : Guarded (-braces) words

namespace Level

theorem nil : Level 0 0 0 [] := ⟨rfl, rfl, rfl, trivial⟩

theorem append (first : Level p b n words) (second : Level p' b' n' words') (le : b' ≤ 0) :
    Level (p + p') (b + b') (n + n') (words ++ words') := by
  obtain ⟨parens, braces, bars, guarded⟩ := first
  obtain ⟨parens', braces', bars', guarded'⟩ := second
  refine ⟨?_, ?_, ?_, guarded_append.mpr ⟨guarded.deeper (by omega), ?_⟩⟩
  · simp only [tally_append, plus, parens, parens']
  · simp only [tally_append, plus, braces, braces']
  · simp only [tally_append, plus]
    omega
  · exact guarded'.deeper (by omega)

theorem plain (plain : TokenKind.isPlain kind = true) : Level 0 0 0 [⟨kind, text⟩] := by
  have none : tally [⟨kind, text⟩] = zero := by
    rw [tally_cons, ofKind_plain plain]
    rfl
  refine ⟨by rw [none]; rfl, by rw [none]; rfl, by rw [none]; rfl, ?_, ?_, trivial⟩
  · exact (Bool.and_eq_true_iff.mp plain).1
  · rintro rfl
    cases plain

theorem leftParen : Level 1 0 0 [⟨.leftParen, text⟩] := ⟨rfl, rfl, rfl, rfl, nofun, trivial⟩

theorem rightParen : Level (-1) 0 0 [⟨.rightParen, text⟩] := ⟨rfl, rfl, rfl, rfl, nofun, trivial⟩

theorem leftBrace : Level 0 1 0 [⟨.leftBrace, text⟩] := ⟨rfl, rfl, rfl, rfl, nofun, trivial⟩

theorem rightBrace : Level 0 (-1) 0 [⟨.rightBrace, text⟩] := ⟨rfl, rfl, rfl, rfl, nofun, trivial⟩

theorem bar : Level 0 0 1 [⟨.bar, text⟩] := ⟨rfl, rfl, rfl, rfl, nofun, trivial⟩

/-- A semicolon stands before words that close a brace. -/
theorem semicolon (level : Level p (-1) n words) :
    Level p (-1) n (⟨.semicolon, text⟩ :: words) := by
  obtain ⟨parens, braces, bars, guarded⟩ := level
  have same : tally (⟨.semicolon, text⟩ :: words) = tally words := zero_plus _
  exact ⟨same ▸ parens, same ▸ braces, same ▸ bars, rfl, fun _ => Int.le_refl 1, guarded⟩

theorem even (level : Level p b 2 words) : Level p b 0 words :=
  ⟨level.parens_eq, level.braces_eq, level.bars_eq, level.guarded⟩

end Level

end Balance

namespace Reading

open Balance (Level)

mutual

theorem Operand.level : Operand words next e → Level 0 0 0 words
  | .name | .integer _ | .real _ | .trueWord | .falseWord | .undefinedWord => .plain rfl
  | .prefixed found expression =>
    (Level.plain (TokenKind.isPlain_of_prefixSymbol found)).append expression.level (by decide)
  | .parens expression =>
    Level.leftParen.append (expression.level.append .rightParen (by decide)) (by decide)
  | .bars expression =>
    (Level.bar.append (expression.level.append .bar (by decide)) (by decide)).even
  | .emptySet => Level.leftBrace.append .rightBrace (by decide)
  | .set expression members =>
    Level.leftBrace.append (expression.level.append members.level (by decide)) (by decide)
  | .piecewise expression arms =>
    Level.leftBrace.append (expression.level.append arms.level (by decide)) (by decide)

theorem Expression.level : Expression precedence words next e → Level 0 0 0 words
  | .intro operand climb => operand.level.append climb.level (by decide)

theorem Climb.level : Climb precedence left words next e → Level 0 0 0 words
  | .done _ => .nil
  | .factorial rest => (Level.plain rfl).append rest.level (by decide)
  | .call _ arguments rest =>
    Level.leftParen.append (arguments.level.append rest.level (by decide)) (by decide)
  | .infixed found other _ _ expression rest =>
    (Level.plain (TokenKind.isPlain_of_infixSymbol found other)).append
      (expression.level.append rest.level (by decide)) (by decide)

theorem Arguments.level : Arguments words es → Level (-1) 0 0 words
  | .done => .rightParen
  | .last expression => expression.level.append .rightParen (by decide)
  | .more expression rest =>
    expression.level.append ((Level.plain rfl).append rest.level (by decide)) (by decide)

theorem Members.level : Members words es → Level 0 (-1) 0 words
  | .done => .rightBrace
  | .trailing => (Level.plain rfl).append .rightBrace (by decide)
  | .more expression rest =>
    (Level.plain rfl).append (expression.level.append rest.level (by decide)) (by decide)

theorem Guard.level : Guard seenElse words isElse g → Level 0 0 0 words
  | .condition expression => (Level.plain rfl).append expression.level (by decide)
  | .otherwise => .plain rfl

theorem Arms.level : Arms seenElse value words arms → Level 0 (-1) 0 words
  | .last guard => guard.level.append (Level.rightBrace.semicolon) (by decide)
  | .more guard expression rest =>
    guard.level.append (expression.level.append rest.level (by decide)).semicolon (by decide)

end

theorem Parameters.level : Parameters before words names → Level (-1) 0 0 words
  | .done => .rightParen
  | .last _ => (Level.plain rfl).append .rightParen (by decide)
  | .more _ rest =>
    (Level.plain rfl).append ((Level.plain rfl).append rest.level (by decide)) (by decide)

/-- A statement is all level up to its last semicolon. -/
theorem Statement.level (read : Statement words s) :
    ∃ inner text, words = inner ++ [⟨.semicolon, text⟩] ∧ Level 0 0 0 inner := by
  cases read with
  | @assignment words e text₁ name text₂ text₃ expression =>
    refine ⟨⟨.letWord, text₁⟩ :: ⟨.name, name⟩ :: ⟨.assign, text₂⟩ :: words, text₃, rfl, ?_⟩
    exact (Level.plain rfl).append ((Level.plain rfl).append ((Level.plain rfl).append
      expression.level (by decide)) (by decide)) (by decide)
  | @declaration words names words' e text₁ name text₂ text₃ text₄ parameters expression =>
    refine ⟨⟨.fnWord, text₁⟩ :: ⟨.name, name⟩ :: ⟨.leftParen, text₂⟩ ::
      (words ++ ⟨.assign, text₃⟩ :: words'), text₄, by simp, ?_⟩
    exact (Level.plain rfl).append ((Level.plain rfl).append (Level.leftParen.append
      (parameters.level.append ((Level.plain rfl).append expression.level (by decide))
        (by decide)) (by decide)) (by decide)) (by decide)
  | expression expression => exact ⟨_, _, rfl, expression.level⟩

end Reading

open Balance (tally Level)

/-- The words end with a semicolon and leave no group open. -/
def Complete (words : List Word) : Prop :=
  (∃ front text, words = front ++ [⟨.semicolon, text⟩]) ∧ (tally words).isClosed = true

/-- Whether a text is complete is told from its words. -/
theorem isComplete_spells (spelled : Spells source.toList words) :
    ∃ answer, isComplete source = .ok answer ∧ (answer = true ↔ Complete words) := by
  obtain ⟨inner, last, scanned, ended, rfl⟩ := tokenize_of_spells spelled
  have kept : (inner ++ [last]).filter (·.kind ≠ .endOfInput) = inner := by
    rw [List.filter_append, List.filter_eq_self.mpr, List.filter_eq_nil_iff.mpr, List.append_nil]
    · simp [ended]
    · intro t member
      exact decide_eq_true (spelled.lexical t.word (List.mem_map_of_mem member)).inside
  have tallied : inner.foldl Balance.add Balance.zero = tally (inner.map Token.word) := by
    rw [Balance.foldl_add, Balance.zero_plus]
  simp only [isComplete, scanned, bind, Except.bind, kept, tallied]
  rcases List.eq_nil_or_concat inner with rfl | ⟨front, t, rfl⟩
  · refine ⟨false, rfl, ?_⟩
    simp [Complete]
  · rw [List.concat_eq_append, List.getLast?_concat]
    refine ⟨_, rfl, ?_⟩
    rw [Bool.and_eq_true, decide_eq_true_eq, Complete]
    refine and_congr_left fun _ => ?_
    rw [List.map_append]
    constructor
    · intro semicolon
      refine ⟨front.map Token.word, t.text, ?_⟩
      simp [Token.word, semicolon]
    · rintro ⟨front', text, same⟩
      have last := (List.append_inj' same rfl).2
      simp only [List.map_cons, List.map_nil, List.cons.injEq, and_true] at last
      exact congrArg Word.kind last

namespace Parser

theorem Segment.level (segment : Segment nesting words s) :
    ∃ inner text, words = inner ++ [⟨.semicolon, text⟩] ∧ Level 0 0 0 inner := segment.read.level

/-- A statement adds nothing to what is open. -/
theorem Segment.isClosed_append (segment : Segment nesting words s) (rest : List Word) :
    (tally (words ++ rest)).isClosed = (tally rest).isClosed := by
  obtain ⟨inner, text, rfl, level⟩ := segment.level
  have parens := level.parens_eq
  have braces := level.braces_eq
  have bars : ((tally inner).bars + (tally rest).bars) % 2 = (tally rest).bars % 2 := by
    have even := level.bars_eq
    omega
  have same : tally (inner ++ [⟨.semicolon, text⟩] ++ rest) = (tally inner).plus (tally rest) := by
    rw [List.append_assoc, Balance.tally_append]
    exact congrArg _ (Balance.zero_plus _)
  rw [same]
  simp only [Balance.isClosed, Balance.plus, parens, braces, bars, Int.zero_add]

theorem Segments.used (segments : Segments nesting words program) :
    ∀ w ∈ words, w.kind.isUsed = true := by
  induction segments with
  | done => exact nofun
  | more segment _ ih =>
    obtain ⟨inner, text, rfl, level⟩ := segment.level
    intro w member
    simp only [List.mem_append, List.mem_singleton] at member
    rcases member with (member | rfl) | member
    · exact level.guarded.used w member
    · rfl
    · exact ih w member

theorem Segments.nil_eq (segments : Segments nesting [] program) : program = [] := by
  generalize none : ([] : List Word) = words at segments
  cases segments with
  | done => rfl
  | more segment _ =>
    obtain ⟨rfl, -⟩ := List.nil_eq_append_iff.mp none
    exact absurd segment.read.length_pos (Nat.lt_irrefl 0)

/-- Some statements one after the other are complete. -/
theorem Segments.complete (segments : Segments nesting words program) (some : words ≠ []) :
    Complete words := by
  induction segments with
  | done => exact absurd rfl some
  | @more words s rest program segment _ ih =>
    refine ⟨?_, ?_⟩
    · by_cases last : rest = []
      · obtain ⟨inner, text, rfl, -⟩ := segment.level
        exact ⟨inner, text, by rw [last, List.append_nil]⟩
      · obtain ⟨⟨front, text, rfl⟩, -⟩ := ih last
        exact ⟨words ++ front, text, (List.append_assoc ..).symm⟩
    · rw [segment.isClosed_append]
      by_cases last : rest = []
      · rw [last]
        rfl
      · exact (ih last).2

/-- A semicolon inside a statement is not where it is complete. -/
theorem Segment.not_complete (segment : Segment nesting (first ++ rest) s) (some : rest ≠ []) :
    ¬Complete first := by
  rintro ⟨⟨front, text, rfl⟩, closed⟩
  obtain ⟨inner, text', whole, level⟩ := segment.level
  obtain ⟨more, last, rfl⟩ := (List.eq_nil_or_concat rest).resolve_left some
  rw [List.concat_eq_append, ← List.append_assoc] at whole
  obtain ⟨rfl, -⟩ := List.append_inj' whole rfl
  have guarded := (Balance.guarded_append.mp (Balance.guarded_append.mp level.guarded).1).2
  have inside : 1 ≤ -0 + (tally front).braces := guarded.2.1 rfl
  have same : (tally (front ++ [⟨.semicolon, text⟩])).braces = (tally front).braces := by
    rw [Balance.tally_append]
    exact Int.add_zero _
  simp only [Balance.isClosed, same, Bool.and_eq_true, decide_eq_true_eq] at closed
  omega

/-- Complete words at the front of a program are some of its statements. -/
theorem Segments.cut (segments : Segments nesting (first ++ rest) program)
    (complete : Complete first) : ∃ before after, program = before ++ after ∧
      Segments nesting first before ∧ Segments nesting rest after := by
  generalize whole : first ++ rest = words at segments
  induction segments generalizing first with
  | done =>
    obtain ⟨⟨front, text, rfl⟩, -⟩ := complete
    simp at whole
  | @more words s others program segment segments ih =>
    rcases List.append_eq_append_iff.mp whole with ⟨more, rfl, rfl⟩ | ⟨more, rfl, rfl⟩
    · have nothing : more = [] := Decidable.byContradiction fun some =>
        segment.not_complete some complete
      subst nothing
      rw [List.append_nil] at segment
      refine ⟨[s], program, rfl, ?_, segments⟩
      simpa using Segments.more segment .done
    by_cases nothing : more = []
    · subst nothing
      refine ⟨[s], program, rfl, ?_, segments⟩
      exact Segments.more segment .done
    · have rest : Complete more := by
        obtain ⟨⟨front, text, same⟩, closed⟩ := complete
        rw [segment.isClosed_append] at closed
        refine ⟨?_, closed⟩
        obtain ⟨front', last, rfl⟩ := (List.eq_nil_or_concat more).resolve_left nothing
        rw [List.concat_eq_append, ← List.append_assoc] at same
        exact ⟨front', text, by rw [List.concat_eq_append, (List.append_inj' same rfl).2]⟩
      obtain ⟨before, after, rfl, read, read'⟩ := ih rest rfl
      exact ⟨s :: before, after, rfl, .more segment read, read'⟩

end Parser

end PiecewiseLang
