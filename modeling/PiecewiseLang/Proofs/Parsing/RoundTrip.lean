import PiecewiseLang.Proofs.Parsing.Writing

/-! Rendering and parsing are inverse to each other. The words of a well-formed tree are read
as the tree again, whatever operators follow them, so that the written form parses to the
tree it was written from; and every tree that is parsed is well-formed. -/
namespace PiecewiseLang

namespace Expr

open Reading

/-- Every operator but the call binds less strongly than a call. -/
theorem level_lt_call (strength : Operator.infixPrecedence? symbol = some binding)
    (other : symbol ≠ .call) :
    Precedence.lowest.level < binding.level ∧ binding.level < Precedence.call.level := by
  cases symbol <;> cases strength <;> first | decide | exact absurd rfl other

theorem infix_cases (written : Operator.isWritten ⟨symbol, .infixed⟩ = true) :
    symbol ≠ .call ∧ ∃ binding, Operator.infixPrecedence? symbol = some binding := by
  simpa [Operator.isWritten, Operator.precedence?, Option.isSome_iff_exists, and_comm] using written

/-- A tree that is read whatever extends it is read before a token that ends it. -/
theorem reads_whole {before : List Word}
    (reads : ∀ {rest e'}, Climb precedence e rest next e' →
      Expression precedence (before ++ rest) next e')
    (ends : next.endsAt precedence = true) : Expression precedence before next e := by
  simpa using reads (.done ends)

theorem rest_ends (es : List Expr) (next : TokenKind) :
    (headKind (wordsOfRest (mark '}') es) next).endsExpression = true := by
  cases es <;> rfl

mutual

/-- The words of a tree are read as the tree, and what follows them extends it. -/
theorem reads_words : (e : Expr) → e.isWellFormed = true →
    precedence.level < Precedence.call.level → Climb precedence e rest next e' →
    Expression precedence (e.words ++ rest) next e'
  | .name _, _, _, climb => .intro .name climb
  | .integer value, wellFormed, _, climb => by
    obtain ⟨n, rfl, range, text⟩ := integer_cases wellFormed
    have read := Text.readInteger_ofList (Text.isDigit_toDigits n) Nat.toDigits_ne_nil
      (length_toDigits_le range)
    rw [words, text]
    exact .intro (.integer (by rw [read, Text.digitsValue_toDigits])) climb
  | .real value, wellFormed, _, climb => by
    obtain ⟨x, rfl, plain⟩ := real_cases wellFormed
    obtain ⟨_, _, _, _, _, _, _, read⟩ := Binary64.write_spec plain
    exact .intro (.real read) climb
  | .boolean true, _, _, climb => .intro .trueWord climb
  | .boolean false, _, _, climb => .intro .falseWord climb
  | .undefined, _, _, climb => .intro .undefinedWord climb
  | .combination ⟨symbol, .prefixed⟩ left right, wellFormed, _, climb => by
    obtain ⟨written, ⟨none, some⟩, -, sound⟩ := combination_cases wellFormed
    obtain ⟨e, same⟩ := Option.isSome_iff_exists.mp some
    have inner : Expression .unary (wordsOfOperand right) .rightParen e :=
      reads_whole (reads_operand right same sound (by decide)) rfl
    have found : symbol.kind.prefixSymbol? = .some symbol := by
      rcases prefix_cases written with rfl | rfl <;> rfl
    obtain rfl : left = .none := by simpa [Fixity.operands] using none
    subst same
    have whole : Expression .lowest ((sign ⟨symbol, .prefixed⟩ :: wordsOfOperand _) ++ [])
        .rightParen _ := .intro (.prefixed found inner) (.done rfl)
    rw [List.append_nil] at whole
    exact .intro (.parens whole) climb
  | .combination ⟨symbol, .postfixed⟩ left right, wellFormed, _, climb => by
    obtain ⟨written, ⟨some, none⟩, sound, -⟩ := combination_cases wellFormed
    obtain ⟨e, same⟩ := Option.isSome_iff_exists.mp some
    obtain rfl := postfix_eq written
    have whole : Expression .lowest (wordsOfOperand left ++ [sign ⟨.factorial, .postfixed⟩])
        .rightParen _ := reads_operand left same sound (by decide) (.factorial (.done rfl))
    obtain rfl : right = .none := by simpa [Fixity.operands] using none
    subst same
    exact .intro (.parens whole) climb
  | .combination ⟨symbol, .infixed⟩ left right, wellFormed, _, climb => by
    obtain ⟨written, ⟨some, some'⟩, sound, sound'⟩ := combination_cases wellFormed
    obtain ⟨e₁, same⟩ := Option.isSome_iff_exists.mp some
    obtain ⟨e₂, same'⟩ := Option.isSome_iff_exists.mp some'
    obtain ⟨other, binding, strength⟩ := infix_cases written
    obtain ⟨above, below⟩ := level_lt_call strength other
    have second : Expression binding (wordsOfOperand right) .rightParen e₂ :=
      reads_whole (reads_operand right same' sound' below) (TokenKind.endsAt_of_ends rfl)
    have found : symbol.kind.infixSymbol? = .some symbol := by
      refine symbol.infixSymbol_kind ?_
      rintro rfl
      cases strength
    have whole : Expression .lowest
        (wordsOfOperand left ++ sign ⟨symbol, .infixed⟩ :: (wordsOfOperand right ++ []))
        .rightParen _ := reads_operand left same sound (by decide)
      (.infixed found other strength above second (.done rfl))
    subst same same'
    rw [List.append_nil] at whole
    exact .intro (.parens whole) climb
  | .call callee arguments, wellFormed, weak, climb => by
    rw [isWellFormed, Bool.and_eq_true] at wellFormed
    have inner := reads_arguments arguments wellFormed.2
    rw [words, List.append_assoc]
    exact reads_words callee wellFormed.1 weak (.call weak inner climb)
  | .piecewise [], wellFormed, _, _ => by simp [isWellFormed] at wellFormed
  | .piecewise ((value, guard) :: arms), wellFormed, _, climb => by
    have sound : armsWellFormed ((value, guard) :: arms) = true := by
      simpa [isWellFormed] using wellFormed
    have inner : Arms false value _ _ := reads_arms ((value, guard) :: arms) sound rfl
    simp only [armsWellFormed, Bool.and_eq_true] at sound
    have first : Expression .lowest value.words .ifWord value :=
      reads_whole (reads_words value sound.1.1 (by decide)) rfl
    exact .intro (.piecewise first inner) climb
  | .magnitude operand, wellFormed, _, climb => by
    rw [isWellFormed] at wellFormed
    exact .intro (.bars (reads_whole (reads_words operand wellFormed (by decide)) rfl)) climb
  | .set [], _, _, climb => .intro .emptySet climb
  | .set (e :: es), wellFormed, _, climb => by
    rw [isWellFormed, allWellFormed, Bool.and_eq_true] at wellFormed
    have first : Expression .lowest e.words
        (headKind (wordsOfRest (mark '}') es) (headKind rest next)) e :=
      reads_whole (reads_words e wellFormed.1 (by decide))
        (TokenKind.endsAt_of_ends (rest_ends es _))
    exact .intro (.set first (reads_members es wellFormed.2)) climb
termination_by structural e => e

theorem reads_operand : (operand : Option Expr) → operand = some e →
    operandWellFormed operand = true → precedence.level < Precedence.call.level →
    Climb precedence e rest next e' → Expression precedence (wordsOfOperand operand ++ rest) next e'
  | some e, rfl, wellFormed, weak, climb => by
    rw [operandWellFormed] at wellFormed
    exact reads_words e wellFormed weak climb
termination_by structural operand => operand

theorem reads_arguments : (es : List Expr) → allWellFormed es = true →
    Arguments (wordsOfList (mark ')') es) es
  | [], _ => .done
  | [e], wellFormed => by
    rw [allWellFormed, Bool.and_eq_true] at wellFormed
    exact .last (reads_whole (reads_words e wellFormed.1 (by decide)) rfl)
  | e :: e' :: es, wellFormed => by
    rw [allWellFormed, Bool.and_eq_true] at wellFormed
    exact .more (reads_whole (reads_words e wellFormed.1 (by decide)) rfl)
      (reads_arguments (e' :: es) wellFormed.2)
termination_by structural es => es

theorem reads_members : (es : List Expr) → allWellFormed es = true →
    Members (wordsOfRest (mark '}') es) es
  | [], _ => .done
  | e :: es, wellFormed => by
    rw [allWellFormed, Bool.and_eq_true] at wellFormed
    have first : Expression .lowest e.words
        (headKind (wordsOfRest (mark '}') es) .endOfInput) e :=
      reads_whole (reads_words e wellFormed.1 (by decide))
        (TokenKind.endsAt_of_ends (rest_ends es .endOfInput))
    exact .more first (reads_members es wellFormed.2)
termination_by structural es => es

theorem reads_arms : (pieces : List (Expr × Expr)) → armsWellFormed pieces = true →
    pieces = (value, condition) :: arms → Arms seenElse value
      (⟨.ifWord, "if"⟩ :: (condition.words ++ mark ';' :: wordsOfArms arms)) pieces
  | [(value, condition)], wellFormed, rfl => by
    simp only [armsWellFormed, Bool.and_eq_true] at wellFormed
    exact .last (.condition (reads_whole (reads_words condition wellFormed.1.2 (by decide)) rfl))
  | (value, condition) :: (value', condition') :: arms, wellFormed, rfl => by
    rw [armsWellFormed, Bool.and_eq_true, Bool.and_eq_true] at wellFormed
    obtain ⟨⟨-, first⟩, second⟩ := wellFormed
    have others : Arms (seenElse || false) value' _ _ :=
      reads_arms ((value', condition') :: arms) second rfl
    simp only [armsWellFormed, Bool.and_eq_true] at second
    have before : Expression .lowest condition.words .semicolon condition :=
      reads_whole (reads_words condition first (by decide)) rfl
    let rest := ⟨.ifWord, "if"⟩ :: (condition'.words ++ mark ';' :: wordsOfArms arms)
    have next : Expression .lowest value'.words (headKind rest .endOfInput) value' :=
      reads_whole (reads_words value' second.1.1 (by decide)) rfl
    exact .more (.condition before) next others
termination_by structural pieces => pieces

end

theorem reads_parameters (parameters before : List String) (distinct : (before ++ parameters).Nodup) :
    Reading.Parameters before (wordsOfList (mark ')') (parameters.map .name))
      (before ++ parameters) := by
  induction parameters generalizing before with
  | nil =>
    rw [List.append_nil]
    exact .done
  | cons p parameters ih =>
    have fresh := Reading.fresh distinct
    cases parameters with
    | nil => exact .last fresh
    | cons q parameters =>
      have same : before ++ p :: q :: parameters = (before ++ [p]) ++ q :: parameters := by simp
      rw [same] at distinct ⊢
      exact .more fresh (ih (before ++ [p]) distinct)

end Expr

namespace Statement

theorem reads_words (s : Statement) (wellFormed : s.isWellFormed = true) :
    Reading.Statement s.words s := by
  cases s with
  | assignment name e =>
    rw [isWellFormed, Bool.and_eq_true] at wellFormed
    exact .assignment (Expr.reads_whole (Expr.reads_words e wellFormed.2 (by decide)) rfl)
  | declaration name parameters body =>
    simp only [isWellFormed, Bool.and_eq_true, decide_eq_true_eq] at wellFormed
    exact .declaration (Expr.reads_parameters parameters [] wellFormed.1.2)
      (Expr.reads_whole (Expr.reads_words body wellFormed.2 (by decide)) rfl)
  | expression e => exact .expression (Expr.reads_whole (Expr.reads_words e wellFormed (by decide)) rfl)

end Statement

/-- The written form of a program, a line for each statement. -/
def renderProgram (program : List Statement) : String :=
  "\n".intercalate (program.map Statement.render)

theorem spells_lines (program : List Statement) (wellFormed : ∀ s ∈ program, s.isWellFormed = true) :
    Spells ((program.map Statement.render).flatMap ("\n".toList ++ ·.toList))
      (program.flatMap Statement.words) := by
  induction program with
  | nil => exact .done rfl
  | cons s program ih =>
    have others := ih fun s member => wellFormed s (List.mem_cons_of_mem _ member)
    have line := s.spells_render (wellFormed s (List.mem_cons_self ..)) others
    exact Spells.blank (c := '\n') rfl line

theorem spells_program (program : List Statement)
    (wellFormed : ∀ s ∈ program, s.isWellFormed = true) :
    Spells (renderProgram program).toList (program.flatMap Statement.words) := by
  cases program with
  | nil => exact .done rfl
  | cons s program =>
    have others := spells_lines program fun s member => wellFormed s (List.mem_cons_of_mem _ member)
    rw [renderProgram, List.map_cons, Expr.toList_intercalate_cons]
    exact s.spells_render (wellFormed s (List.mem_cons_self ..)) others

theorem reads_program (program : List Statement)
    (wellFormed : ∀ s ∈ program, s.isWellFormed = true) :
    Reading.Program (program.flatMap Statement.words) program := by
  induction program with
  | nil => exact .done
  | cons s program ih =>
    exact .more (s.reads_words (wellFormed s (List.mem_cons_self ..)))
      (ih fun s member => wellFormed s (List.mem_cons_of_mem _ member))

theorem parseExpr_render (e : Expr) (wellFormed : e.isWellFormed = true)
    (fits : e.render.length ≤ nesting) : parseExpr nesting e.render = .ok e := by
  have spelled : Spells e.render.toList e.words := by
    have empty : Spells [] [] := .done rfl
    simpa using e.spells_render wellFormed rfl empty
  have read : Reading.Expression .lowest e.words .endOfInput e :=
    Expr.reads_whole (Expr.reads_words e wellFormed (by decide)) rfl
  refine parseExpr_complete spelled read (Nat.le_trans spelled.length_le ?_)
  rwa [String.length_toList]

theorem parseProgram_render (program : List Statement)
    (wellFormed : ∀ s ∈ program, s.isWellFormed = true)
    (fits : (renderProgram program).length ≤ nesting) :
    parseProgram nesting (renderProgram program) = .ok program := by
  have spelled := spells_program program wellFormed
  refine parseProgram_complete spelled (reads_program program wellFormed)
    (Nat.le_trans spelled.length_le ?_)
  rwa [String.length_toList]

theorem wellFormed_of_parseExpr (parsed : parseExpr nesting source = .ok e) :
    e.isWellFormed = true := by
  obtain ⟨words, spelled, read⟩ := parseExpr_sound parsed
  exact read.wellFormed spelled.lexical

theorem wellFormed_of_parseProgram (parsed : parseProgram nesting source = .ok program) :
    ∀ s ∈ program, s.isWellFormed = true := by
  obtain ⟨words, spelled, read⟩ := parseProgram_sound parsed
  exact read.wellFormed spelled.lexical

/-- Rendering and parsing are inverse: what is parsed is well-formed, and what is well-formed
is parsed from its written form, given nesting for as many expressions as the text has
characters. -/
theorem parsing_inverts_rendering :
    (∀ nesting source e, parseExpr nesting source = .ok e → e.isWellFormed = true) ∧
    (∀ nesting source program, parseProgram nesting source = .ok program →
      ∀ s ∈ program, s.isWellFormed = true) ∧
    (∀ e : Expr, e.isWellFormed = true → ∀ nesting ≥ e.render.length,
      parseExpr nesting e.render = .ok e) ∧
    (∀ program : List Statement, (∀ s ∈ program, s.isWellFormed = true) →
      ∀ nesting ≥ (renderProgram program).length,
        parseProgram nesting (renderProgram program) = .ok program) :=
  ⟨fun _ _ _ parsed => wellFormed_of_parseExpr parsed,
    fun _ _ _ parsed => wellFormed_of_parseProgram parsed,
    fun e wellFormed _ fits => parseExpr_render e wellFormed fits,
    fun program wellFormed _ fits => parseProgram_render program wellFormed fits⟩

/-- Nested bars, a call of a call, a set in a block and signs before each other. -/
def roundTripSample : Expr :=
  .piecewise
    [(.magnitude (.magnitude (.combination ⟨.sub, .prefixed⟩ none
        (some (.combination ⟨.not, .prefixed⟩ none (some (.name "x")))))),
      .combination ⟨.mem, .infixed⟩ (some (.call (.call (.name "f") []) [.integer 1, .undefined]))
        (some (.set [.boolean true, .integer 9223372036854775807]))),
     (.combination ⟨.factorial, .postfixed⟩ (some (.set [])) none, .boolean true)]

theorem parsing_inverts_rendering_sample :
    roundTripSample.isWellFormed = true ∧
      parseExpr 100 roundTripSample.render = .ok roundTripSample ∧
      parseProgram 150 (renderProgram [.assignment "a" roundTripSample,
        .declaration "g" ["x", "y"] (.name "x"), .expression (.real (.finite .zero))]) =
        .ok [.assignment "a" roundTripSample,
          .declaration "g" ["x", "y"] (.name "x"), .expression (.real (.finite .zero))] := by
  obtain ⟨-, -, expressions, programs⟩ := parsing_inverts_rendering
  refine ⟨by decide, expressions _ (by decide) _ (by decide +kernel), programs _ (by decide) _ ?_⟩
  decide +kernel

end PiecewiseLang
