import PiecewiseLang.Proofs.Parsing.Reading

/-! Whatever the parser accepts follows the rules of reading, under every bound. Each part
of the parser is taken with an arbitrary parser for the expressions inside it; the last step
ties the knot by induction on the nesting. -/
namespace PiecewiseLang

open Cursor Reading

namespace Parser

/-- Every expression that `deeper` accepts is read by the rules. -/
def ReadsExpressions (deeper : Precedence → Parser Expr) : Prop :=
  ∀ {precedence c e d}, (deeper precedence).Yields c e d →
    ∃ words, c.Passes words d ∧ Expression precedence words d.current.kind e

variable {c d : Cursor}

/-- A token of a known kind is passed as one word. -/
theorem passes_kind {kind : TokenKind} (found : c.current.kind = kind)
    (inside : kind ≠ .endOfInput) (advanced : c.advance = .ok d) (rest : d.Passes words e) :
    c.Passes (⟨kind, c.current.text⟩ :: words) e := by
  subst found
  exact .step inside advanced rest

section
variable {deeper : Precedence → Parser Expr}

/-- At a closing parenthesis there are no more arguments. -/
theorem arguments_closing (found : c.current.kind = .rightParen)
    (run : (arguments deeper bound).Yields c es d) : es = [] ∧ c.advance = .ok d := by
  cases bound with
  | zero => simp [arguments] at run
  | succ bound => simpa [arguments, yields_accept_bind, found, eq_comm, and_comm, and_assoc] using run

theorem arguments_sound (reads : ReadsExpressions deeper) :
    (arguments deeper bound).Yields c es d → ∃ words, c.Passes words d ∧ Arguments words es := by
  induction bound generalizing c es d with
  | zero => intro run; simp [arguments] at run
  | succ bound ih =>
    intro run
    rw [arguments, yields_accept_bind] at run
    rcases run with ⟨paren, m, closed, run⟩ | ⟨-, run⟩
    · obtain ⟨rfl, rfl⟩ := yields_pure.mp run
      exact ⟨_, passes_kind paren (by decide) closed .done, .done⟩
    · simp only [Bool.false_eq_true, if_false, yields_bind, yields_pure, yields_separator] at run
      obtain ⟨e, c₁, first, _, c₂, separated, others, c₃, rest, rfl, rfl⟩ := run
      obtain ⟨words, passed, expression⟩ := reads first
      rcases separated with ⟨comma, advanced⟩ | ⟨-, paren, rfl⟩
      · obtain ⟨words', passed', read⟩ := ih rest
        refine ⟨_, passed.append (passes_kind comma (by decide) advanced passed'), ?_⟩
        exact .more (comma ▸ expression) read
      · obtain ⟨rfl, closed⟩ := arguments_closing paren rest
        refine ⟨_, passed.append (passes_kind paren (by decide) closed .done), ?_⟩
        exact .last (paren ▸ expression)

theorem members_sound (reads : ReadsExpressions deeper) :
    (members deeper bound).Yields c es d → ∃ words, c.Passes words d ∧ Members words es := by
  induction bound generalizing c es d with
  | zero => intro run; simp [members] at run
  | succ bound ih =>
    intro run
    rw [members, yields_accept_bind] at run
    rcases run with ⟨brace, m, closed, run⟩ | ⟨-, run⟩
    · obtain ⟨rfl, rfl⟩ := yields_pure.mp run
      exact ⟨_, passes_kind brace (by decide) closed .done, .done⟩
    simp only [Bool.false_eq_true, if_false] at run
    obtain ⟨_, m, found, run⟩ := yields_bind.mp run
    obtain ⟨comma, -, advanced⟩ := yields_expect.mp found
    rcases yields_accept_bind.mp run with ⟨brace, m', closed, run⟩ | ⟨-, run⟩
    · obtain ⟨rfl, rfl⟩ := yields_pure.mp run
      exact ⟨_, passes_kind comma (by decide) advanced
        (passes_kind brace (by decide) closed .done), .trailing⟩
    · simp only [Bool.false_eq_true, if_false, yields_bind, yields_pure] at run
      obtain ⟨e, c₁, first, others, c₂, rest, rfl, rfl⟩ := run
      obtain ⟨words, passed, expression⟩ := reads first
      obtain ⟨words', passed', read⟩ := ih rest
      rw [passed'.current_kind] at expression
      exact ⟨_, passes_kind comma (by decide) advanced (passed.append passed'),
        .more expression read⟩

theorem guardOf_sound (reads : ReadsExpressions deeper)
    (run : (guardOf deeper seenElse).Yields c (isElse, g) d) (ended : d.current.kind = .semicolon) :
    ∃ words, c.Passes words d ∧ Guard seenElse words isElse g := by
  simp only [guardOf, yields_peek_bind, yields_accept_bind, Bool.false_eq_true, if_false, if_true,
    not_yields_reject, and_false, or_false] at run
  rcases run with ⟨ifWord, m, advanced, run⟩ | ⟨-, elseWord, m, advanced, run⟩
  · simp only [yields_bind, yields_pure, Prod.mk.injEq] at run
    obtain ⟨e, c₁, condition, ⟨rfl, rfl⟩, rfl⟩ := run
    obtain ⟨words, passed, expression⟩ := reads condition
    exact ⟨_, passes_kind ifWord (by decide) advanced passed, .condition (ended ▸ expression)⟩
  · cases seenElse with
    | true => exact absurd run not_yields_fail
    | false =>
      obtain ⟨same, rfl⟩ := yields_pure.mp run
      obtain ⟨rfl, rfl⟩ := Prod.mk.inj same
      exact ⟨_, passes_kind elseWord (by decide) advanced .done, .otherwise⟩

theorem arms_sound (reads : ReadsExpressions deeper) :
    (arms deeper bound seenElse value).Yields c pieces d →
      ∃ words, c.Passes words d ∧ Arms seenElse value words pieces := by
  induction bound generalizing c pieces seenElse value with
  | zero => intro run; simp [arms] at run
  | succ bound ih =>
    intro run
    rw [arms, yields_bind] at run
    obtain ⟨⟨isElse, g⟩, c₁, guarded, run⟩ := run
    obtain ⟨_, m, found, run⟩ := yields_bind.mp run
    obtain ⟨semicolon, -, advanced⟩ := yields_expect.mp found
    obtain ⟨words, passed, guard⟩ := guardOf_sound reads guarded semicolon
    rcases yields_accept_bind.mp run with ⟨brace, m', closed, run⟩ | ⟨-, run⟩
    · obtain ⟨rfl, rfl⟩ := yields_pure.mp run
      exact ⟨_, passed.append (passes_kind semicolon (by decide) advanced
        (passes_kind brace (by decide) closed .done)), .last guard⟩
    · simp only [Bool.false_eq_true, if_false, yields_bind, yields_pure] at run
      obtain ⟨value', c₂, following, others, c₃, rest, rfl, rfl⟩ := run
      obtain ⟨words', passed', expression⟩ := reads following
      obtain ⟨words'', passed'', read⟩ := ih rest
      rw [passed''.current_kind] at expression
      exact ⟨_, passed.append (passes_kind semicolon (by decide) advanced (passed'.append passed'')),
        .more guard expression read⟩

theorem brace_sound (reads : ReadsExpressions deeper) (found : c.current.kind = .leftBrace)
    (run : (brace deeper bound).Yields c e d) :
    ∃ words, c.Passes words d ∧ Operand words d.current.kind e := by
  simp only [brace, yields_advance_bind, yields_accept_bind] at run
  obtain ⟨m, opened, ⟨brace, m', closed, run⟩ | ⟨-, run⟩⟩ := run
  · obtain ⟨rfl, rfl⟩ := yields_pure.mp run
    exact ⟨_, passes_kind found (by decide) opened (passes_kind brace (by decide) closed .done),
      .emptySet⟩
  simp only [Bool.false_eq_true, if_false] at run
  obtain ⟨first, m', read, run⟩ := yields_bind.mp run
  rw [yields_peek_bind] at run
  obtain ⟨words, passed, expression⟩ := reads read
  have block (taken : Yields (do return .piecewise (← arms deeper bound false first)) m' e d) :
      ∃ words, c.Passes words d ∧ Operand words d.current.kind e := by
    simp only [yields_bind, yields_pure] at taken
    obtain ⟨pieces, _, ran, rfl, rfl⟩ := taken
    obtain ⟨words', passed', arms⟩ := arms_sound reads ran
    rw [passed'.current_kind] at expression
    exact ⟨_, passes_kind found (by decide) opened (passed.append passed'),
      .piecewise expression arms⟩
  have set (taken : Yields (do return .set (first :: (← members deeper bound))) m' e d) :
      ∃ words, c.Passes words d ∧ Operand words d.current.kind e := by
    simp only [yields_bind, yields_pure] at taken
    obtain ⟨others, _, ran, rfl, rfl⟩ := taken
    obtain ⟨words', passed', members⟩ := members_sound reads ran
    rw [passed'.current_kind] at expression
    exact ⟨_, passes_kind found (by decide) opened (passed.append passed'),
      .set expression members⟩
  split at run
  · exact block run
  · exact block run
  · exact set run
  · exact set run
  · exact absurd run not_yields_reject

/-- An expression between two tokens of given kinds, as in parentheses and bars. -/
theorem enclosed_sound (reads : ReadsExpressions deeper) (inside : c.current.kind ≠ .endOfInput)
    (closing : kind ≠ .endOfInput) {make : Expr → Expr}
    (run : Yields (do
      let _ ← advance
      let inner ← deeper .lowest
      let _ ← expect kind what
      return make inner) c e d) :
    ∃ words text inner, c.Passes (c.current.word :: (words ++ [⟨kind, text⟩])) d ∧
      Expression .lowest words kind inner ∧ make inner = e := by
  simp only [yields_bind, yields_advance, yields_expect, yields_pure] at run
  obtain ⟨_, m, ⟨-, opened⟩, inner, m', read, _, m'', ⟨found, -, closed⟩, same, rfl⟩ := run
  obtain ⟨words, passed, expression⟩ := reads read
  rw [found] at expression
  exact ⟨words, _, inner,
    .step inside opened (passed.append (passes_kind found closing closed .done)), expression, same⟩

theorem operand_sound (reads : ReadsExpressions deeper) (run : (operand deeper bound).Yields c e d) :
    ∃ words, c.Passes words d ∧ Operand words d.current.kind e := by
  rw [operand, yields_peek_bind] at run
  split at run
  case h_1 found =>
    simp only [yields_advance_bind, yields_pure] at run
    obtain ⟨m, advanced, rfl, rfl⟩ := run
    exact ⟨_, passes_kind found (by decide) advanced .done, .name⟩
  case h_2 found =>
    simp only [yields_bind, yields_advance, yields_literal, yields_pure] at run
    obtain ⟨_, m, ⟨-, advanced⟩, n, _, ⟨read, rfl⟩, rfl, rfl⟩ := run
    exact ⟨_, passes_kind found (by decide) advanced .done, .integer read⟩
  case h_3 found =>
    simp only [yields_bind, yields_advance, yields_literal, yields_pure] at run
    obtain ⟨_, m, ⟨-, advanced⟩, x, _, ⟨read, rfl⟩, rfl, rfl⟩ := run
    exact ⟨_, passes_kind found (by decide) advanced .done, .real read⟩
  case h_4 found =>
    simp only [yields_advance_bind, yields_pure] at run
    obtain ⟨m, advanced, rfl, rfl⟩ := run
    exact ⟨_, passes_kind found (by decide) advanced .done, .trueWord⟩
  case h_5 found =>
    simp only [yields_advance_bind, yields_pure] at run
    obtain ⟨m, advanced, rfl, rfl⟩ := run
    exact ⟨_, passes_kind found (by decide) advanced .done, .falseWord⟩
  case h_6 found =>
    simp only [yields_advance_bind, yields_pure] at run
    obtain ⟨m, advanced, rfl, rfl⟩ := run
    exact ⟨_, passes_kind found (by decide) advanced .done, .undefinedWord⟩
  case h_7 found =>
    obtain ⟨words, text, inner, passed, expression, rfl⟩ :=
      @enclosed_sound _ _ _ _ _ _ reads (by simp [found]) (by decide) id run
    simp only [Token.word, found] at passed
    exact ⟨_, passed, .parens expression⟩
  case h_8 found =>
    obtain ⟨words, text, inner, passed, expression, rfl⟩ :=
      enclosed_sound reads (by simp [found]) (by decide) run
    simp only [Token.word, found] at passed
    exact ⟨_, passed, .bars expression⟩
  case h_9 found => exact brace_sound reads found run
  case h_10 =>
    split at run
    case h_1 symbol found =>
      simp only [yields_bind, yields_advance, yields_pure] at run
      obtain ⟨_, m, ⟨-, advanced⟩, inner, m', read, rfl, rfl⟩ := run
      obtain ⟨words, passed, expression⟩ := reads read
      have inside : c.current.kind ≠ .endOfInput := by
        rcases TokenKind.prefixSymbol_cases found with ⟨kind, -⟩ | ⟨kind, -⟩ <;> simp [kind]
      exact ⟨_, .step inside advanced passed, .prefixed found expression⟩
    case h_2 => exact absurd run not_yields_fail

theorem climb_sound (reads : ReadsExpressions deeper) :
    (climb deeper rounds precedence bound left).Yields c e d →
      ∃ words, c.Passes words d ∧ Climb precedence left words d.current.kind e := by
  induction bound generalizing c left with
  | zero => intro run; simp [climb] at run
  | succ bound ih =>
    intro run
    rw [climb, yields_peek_bind] at run
    by_cases ends : c.current.kind.endsExpression = true
    · rw [if_pos ends] at run
      obtain ⟨rfl, rfl⟩ := yields_pure.mp run
      exact ⟨[], .done, .done (TokenKind.endsAt_of_ends ends)⟩
    rw [if_neg ends] at run
    by_cases bang : c.current.kind = .bang
    · rw [if_pos bang, yields_advance_bind] at run
      obtain ⟨m, advanced, run⟩ := run
      obtain ⟨words, passed, climb⟩ := ih run
      exact ⟨_, passes_kind bang (by decide) advanced passed, .factorial climb⟩
    rw [if_neg bang] at run
    split at run
    case h_1 => exact absurd run not_yields_fail
    case h_2 symbol found =>
    simp only [Operator.precedence?] at run
    split at run
    case h_1 => exact absurd run not_yields_fail
    case h_2 binding strength =>
    by_cases weak : binding.level ≤ precedence.level
    · rw [if_pos weak] at run
      obtain ⟨rfl, rfl⟩ := yields_pure.mp run
      exact ⟨[], .done, .done (TokenKind.endsAt_of_weak found strength weak)⟩
    rw [if_neg weak, yields_advance_bind] at run
    obtain ⟨m, advanced, run⟩ := run
    by_cases call : symbol = .call
    · subst call
      rw [if_pos rfl, yields_bind] at run
      obtain ⟨args, m', read, run⟩ := run
      obtain ⟨words, passed, arguments⟩ := arguments_sound reads read
      obtain ⟨words', passed', climb⟩ := ih run
      obtain rfl : Precedence.call = binding := Option.some.inj strength
      exact ⟨_, passes_kind (TokenKind.leftParen_of_call found) (by decide) advanced
        (passed.append passed'), .call (by omega) arguments climb⟩
    · rw [if_neg call, yields_bind] at run
      obtain ⟨right, m', read, run⟩ := run
      obtain ⟨words, passed, expression⟩ := reads read
      obtain ⟨words', passed', climb⟩ := ih run
      rw [passed'.current_kind] at expression
      have inside : c.current.kind ≠ .endOfInput := by
        intro ended
        simp [ended, TokenKind.endsExpression] at ends
      exact ⟨_, .step inside advanced (passed.append passed'),
        .infixed found call strength (by omega) expression climb⟩

end

theorem expression_sound : ReadsExpressions (expression bound nesting) := by
  induction nesting with
  | zero => intro precedence c e d run; simp [expression] at run
  | succ nesting ih =>
    intro precedence c e d run
    obtain ⟨left, m, first, rest⟩ := yields_bind.mp run
    obtain ⟨words, passed, operand⟩ := operand_sound ih first
    obtain ⟨words', passed', climb⟩ := climb_sound ih rest
    rw [passed'.current_kind] at operand
    exact ⟨_, passed.append passed', .intro operand climb⟩

/-- At a closing parenthesis there are no more parameters. -/
theorem parameters_closing (found : c.current.kind = .rightParen)
    (run : (parameters function bound before).Yields c names d) :
    before = names ∧ c.advance = .ok d := by
  cases bound with
  | zero => simp [parameters] at run
  | succ bound => simpa [parameters, yields_accept_bind, found, and_comm, and_assoc] using run

theorem parameters_sound : (parameters function bound before).Yields c names d →
    ∃ words, c.Passes words d ∧ Parameters before words names := by
  induction bound generalizing c before with
  | zero => intro run; simp [parameters] at run
  | succ bound ih =>
    intro run
    simp only [parameters, yields_accept_bind] at run
    rcases run with ⟨paren, m, closed, run⟩ | ⟨-, run⟩
    · obtain ⟨rfl, rfl⟩ := yields_pure.mp run
      exact ⟨_, passes_kind paren (by decide) closed .done, .done⟩
    simp only [Bool.false_eq_true, if_false] at run
    obtain ⟨_, m, found, run⟩ := yields_bind.mp run
    obtain ⟨name, rfl, advanced⟩ := yields_expect.mp found
    by_cases fresh : c.current.text ∈ before
    · rw [if_pos fresh] at run
      exact absurd run not_yields_fail
    rw [if_neg fresh] at run
    simp only [yields_bind, yields_separator] at run
    obtain ⟨_, m', ⟨comma, separated⟩ | ⟨-, paren, rfl⟩, rest⟩ := run
    · obtain ⟨words, passed, read⟩ := ih rest
      exact ⟨_, passes_kind name (by decide) advanced
        (passes_kind comma (by decide) separated passed), .more fresh read⟩
    · obtain ⟨rfl, closed⟩ := parameters_closing paren rest
      exact ⟨_, passes_kind name (by decide) advanced
        (passes_kind paren (by decide) closed .done), .last fresh⟩

theorem statement_sound (run : (statement bound nesting).Yields c s d) :
    ∃ words, c.Passes words d ∧ Reading.Statement words s := by
  rw [statement, yields_peek_bind] at run
  split at run
  case h_1 found =>
    simp only [assignment, yields_bind, yields_advance, yields_expect, yields_pure] at run
    obtain ⟨_, c₁, ⟨-, a₁⟩, _, c₂, ⟨name, rfl, a₂⟩, _, c₃, ⟨assign, -, a₃⟩, e, c₄, value,
      _, c₅, ⟨semicolon, -, a₄⟩, rfl, rfl⟩ := run
    obtain ⟨words, passed, expression⟩ := expression_sound value
    rw [semicolon] at expression
    exact ⟨_, passes_kind found (by decide) a₁ (passes_kind name (by decide) a₂
      (passes_kind assign (by decide) a₃
        (passed.append (passes_kind semicolon (by decide) a₄ .done)))), .assignment expression⟩
  case h_2 found =>
    simp only [declaration, yields_bind, yields_advance, yields_expect, yields_pure] at run
    obtain ⟨_, c₁, ⟨-, a₁⟩, _, c₂, ⟨name, rfl, a₂⟩, _, c₃, ⟨paren, -, a₃⟩, names, c₄, params,
      _, c₅, ⟨assign, -, a₄⟩, e, c₆, body, _, c₇, ⟨semicolon, -, a₅⟩, rfl, rfl⟩ := run
    obtain ⟨words, passed, parameters⟩ := parameters_sound params
    obtain ⟨words', passed', expression⟩ := expression_sound body
    rw [semicolon] at expression
    exact ⟨_, passes_kind found (by decide) a₁ (passes_kind name (by decide) a₂
      (passes_kind paren (by decide) a₃ (passed.append (passes_kind assign (by decide) a₄
        (passed'.append (passes_kind semicolon (by decide) a₅ .done)))))),
      .declaration parameters expression⟩
  case h_3 =>
    simp only [yields_bind, yields_expect, yields_pure] at run
    obtain ⟨e, c₁, value, _, c₂, ⟨semicolon, -, advanced⟩, rfl, rfl⟩ := run
    obtain ⟨words, passed, expression⟩ := expression_sound value
    rw [semicolon] at expression
    exact ⟨_, passed.append (passes_kind semicolon (by decide) advanced .done),
      .expression expression⟩

theorem statements_sound : (statements bound nesting count).Yields c program d →
    ∃ words, c.Passes words d ∧ d.current.kind = .endOfInput ∧ Reading.Program words program := by
  induction count generalizing c program with
  | zero => intro run; simp [statements] at run
  | succ count ih =>
    intro run
    rw [statements, yields_peek_bind] at run
    by_cases ended : c.current.kind = .endOfInput
    · rw [if_pos ended] at run
      obtain ⟨rfl, rfl⟩ := yields_pure.mp run
      exact ⟨[], .done, ended, .done⟩
    · rw [if_neg ended] at run
      simp only [yields_bind, yields_pure] at run
      obtain ⟨s, m, first, others, m', rest, rfl, rfl⟩ := run
      obtain ⟨words, passed, statement⟩ := statement_sound first
      obtain ⟨words', passed', ended', program⟩ := ih rest
      exact ⟨_, passed.append passed', ended', .more statement program⟩

end Parser

end PiecewiseLang
