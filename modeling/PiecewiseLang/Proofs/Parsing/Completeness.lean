import PiecewiseLang.Proofs.Parsing.Soundness

/-! Whatever follows the rules of reading is accepted, with the tree the rules give, once
the bounds are at least the number of words. Every expression inside another has fewer words
and every round of a loop passes one, so neither bound is met. -/
namespace PiecewiseLang

open Cursor Reading

namespace Reading

theorem Operand.begins (read : Operand words next e) (other : TokenKind) :
    (headKind words other).beginsOperand = true := by
  cases read with
  | prefixed found _ => rcases TokenKind.prefixSymbol_cases found with ⟨rfl, -⟩ | ⟨rfl, -⟩ <;> rfl
  | _ => rfl

theorem Operand.length_pos (read : Operand words next e) : 0 < words.length := by
  cases words with
  | nil => exact absurd (read.begins .endOfInput) (by decide)
  | cons w words => exact Nat.succ_pos _

theorem Expression.begins (read : Expression precedence words next e) (other : TokenKind) :
    (headKind words other).beginsOperand = true := by
  cases read with
  | intro operand _ => rw [headKind_append]; exact operand.begins _

theorem Expression.length_pos (read : Expression precedence words next e) : 0 < words.length := by
  cases read with
  | intro operand _ =>
    rw [List.length_append]
    exact Nat.add_pos_left operand.length_pos _

theorem Members.starts (read : Members words es) (next : TokenKind) :
    headKind words next = .comma ∨ headKind words next = .rightBrace := by
  cases read <;> simp

theorem Arms.starts (read : Arms seenElse value words pieces) (next : TokenKind) :
    headKind words next = .ifWord ∨ headKind words next = .elseWord := by
  cases read with
  | last guard | more guard _ _ => cases guard <;> simp

/-- What follows a list does not matter to what precedes it, as the list has a word. -/
theorem Members.headKind_eq (read : Members words es) (next other : TokenKind) :
    headKind words next = headKind words other := by
  cases read <;> rfl

theorem Arms.headKind_eq (read : Arms seenElse value words pieces) (next other : TokenKind) :
    headKind words next = headKind words other := by
  cases read with
  | last guard | more guard _ _ => cases guard <;> rfl

theorem Statement.length_pos (read : Reading.Statement words s) : 0 < words.length := by
  cases read <;> simp

end Reading

namespace Parser

/-- Every expression of at most `limit` words is accepted by `deeper` with the tree of the
rules. -/
def AcceptsExpressions (deeper : Precedence → Parser Expr) (limit : Nat) : Prop :=
  ∀ {precedence words e c d}, c.Passes words d → Expression precedence words d.current.kind e →
    words.length ≤ limit → (deeper precedence).Yields c e d

variable {c d : Cursor}

/-- The cursor before given words shows the first of them and advances to the others. -/
theorem passes_word (passed : c.Passes (⟨kind, text⟩ :: words) d) :
    c.current.kind = kind ∧ c.current.text = text ∧
      ∃ m, c.advance = .ok m ∧ m.Passes words d := by
  obtain ⟨same, -, m, advanced, rest⟩ := Passes.cons_iff.mp passed
  exact ⟨congrArg Word.kind same, congrArg Word.text same, m, advanced, rest⟩

/-- Before an expression the cursor shows none of the tokens that end a list. -/
theorem current_ne (passed : c.Passes words d) (read : Expression precedence words next e)
    (other : kind.beginsOperand = false) : c.current.kind ≠ kind := by
  rintro rfl
  rw [passed.current_kind, read.begins] at other
  contradiction

section
variable {deeper : Precedence → Parser Expr}

theorem arguments_complete (accepts : AcceptsExpressions deeper limit)
    (passed : c.Passes words d) (read : Arguments words es) (fits : words.length ≤ limit)
    (rounds : words.length ≤ bound) : (arguments deeper bound).Yields c es d := by
  induction bound generalizing c words es with
  | zero => cases read <;> simp at rounds
  | succ bound ih =>
    rw [arguments, yields_accept_bind]
    cases read with
    | done =>
      obtain ⟨paren, -, m, closed, rest⟩ := passes_word passed
      obtain rfl := Passes.nil_iff.mp rest
      exact .inl ⟨paren, m, closed, yields_pure.mpr ⟨rfl, rfl⟩⟩
    | last expression =>
      obtain ⟨m, before, after⟩ := Passes.append_iff.mp passed
      have paren := (passes_word after).1
      have := expression.length_pos
      simp only [List.length_append, List.length_singleton] at fits rounds
      have first := accepts before (paren ▸ expression) (by omega)
      have rest := ih after .done (by simpa using by omega) (by simpa using by omega)
      refine .inr ⟨current_ne before expression rfl, ?_⟩
      simp only [Bool.false_eq_true, if_false, yields_bind, yields_pure, yields_separator]
      exact ⟨_, m, first, (), m, .inr ⟨by simp [paren], paren, rfl⟩, [], d, rest, rfl, rfl⟩
    | more expression others =>
      obtain ⟨m, before, after⟩ := Passes.append_iff.mp passed
      obtain ⟨comma, -, m', advanced, after⟩ := passes_word after
      simp only [List.length_append, List.length_cons] at fits rounds
      have first := accepts before (comma ▸ expression) (by omega)
      have rest := ih after others (by omega) (by omega)
      refine .inr ⟨current_ne before expression rfl, ?_⟩
      simp only [Bool.false_eq_true, if_false, yields_bind, yields_pure, yields_separator]
      exact ⟨_, m, first, (), m', .inl ⟨comma, advanced⟩, _, d, rest, rfl, rfl⟩

theorem members_complete (accepts : AcceptsExpressions deeper limit)
    (passed : c.Passes words d) (read : Members words es) (fits : words.length ≤ limit)
    (rounds : words.length ≤ bound) : (members deeper bound).Yields c es d := by
  induction bound generalizing c words es with
  | zero => cases read <;> simp at rounds
  | succ bound ih =>
    rw [members, yields_accept_bind]
    cases read with
    | done =>
      obtain ⟨brace, -, m, closed, rest⟩ := passes_word passed
      obtain rfl := Passes.nil_iff.mp rest
      exact .inl ⟨brace, m, closed, yields_pure.mpr ⟨rfl, rfl⟩⟩
    | trailing =>
      obtain ⟨comma, -, m, advanced, rest⟩ := passes_word passed
      obtain ⟨brace, -, m', closed, rest⟩ := passes_word rest
      obtain rfl := Passes.nil_iff.mp rest
      refine .inr ⟨by simp [comma], yields_bind.mpr ⟨_, m, yields_expect.mpr ⟨comma, rfl, advanced⟩,
        yields_accept_bind.mpr (.inl ⟨brace, m', closed, yields_pure.mpr ⟨rfl, rfl⟩⟩)⟩⟩
    | more expression others =>
      obtain ⟨comma, -, m, advanced, rest⟩ := passes_word passed
      obtain ⟨m', before, after⟩ := Passes.append_iff.mp rest
      simp only [List.length_append, List.length_cons] at fits rounds
      rw [others.headKind_eq _ d.current.kind, ← after.current_kind] at expression
      have first := accepts before expression (by omega)
      have rest := ih after others (by omega) (by omega)
      refine .inr ⟨by simp [comma], yields_bind.mpr ⟨_, m, yields_expect.mpr ⟨comma, rfl, advanced⟩,
        yields_accept_bind.mpr (.inr ⟨current_ne before expression rfl, ?_⟩)⟩⟩
      simp only [Bool.false_eq_true, if_false, yields_bind, yields_pure]
      exact ⟨_, m', first, _, d, rest, rfl, rfl⟩

theorem guardOf_complete (accepts : AcceptsExpressions deeper limit) (passed : c.Passes words d)
    (read : Guard seenElse words isElse g) (fits : words.length ≤ limit)
    (ended : d.current.kind = .semicolon) : (guardOf deeper seenElse).Yields c (isElse, g) d := by
  rw [guardOf, yields_peek_bind, yields_accept_bind]
  cases read with
  | condition expression =>
    obtain ⟨ifWord, -, m, advanced, rest⟩ := passes_word passed
    simp only [List.length_cons] at fits
    have condition := accepts rest (ended ▸ expression) (by omega)
    refine .inl ⟨ifWord, m, advanced, ?_⟩
    simp only [if_true, yields_bind, yields_pure]
    exact ⟨_, d, condition, rfl, rfl⟩
  | otherwise =>
    obtain ⟨elseWord, -, m, advanced, rest⟩ := passes_word passed
    obtain rfl := Passes.nil_iff.mp rest
    exact .inr ⟨by simp [elseWord], yields_accept_bind.mpr
      (.inl ⟨elseWord, m, advanced, yields_pure.mpr ⟨rfl, rfl⟩⟩)⟩

theorem arms_complete (accepts : AcceptsExpressions deeper limit)
    (passed : c.Passes words d) (read : Arms seenElse value words pieces)
    (fits : words.length ≤ limit) (rounds : words.length ≤ bound) :
    (arms deeper bound seenElse value).Yields c pieces d := by
  induction bound generalizing c words seenElse value pieces with
  | zero => cases read <;> simp at rounds
  | succ bound ih =>
    rw [arms, yields_bind]
    cases read with
    | last guard =>
      obtain ⟨m, before, rest⟩ := Passes.append_iff.mp passed
      obtain ⟨semicolon, -, m', advanced, rest⟩ := passes_word rest
      obtain ⟨brace, -, m'', closed, rest⟩ := passes_word rest
      obtain rfl := Passes.nil_iff.mp rest
      simp only [List.length_append] at fits
      have guarded := guardOf_complete accepts before guard (by omega) semicolon
      exact ⟨_, m, guarded, yields_bind.mpr ⟨_, m', yields_expect.mpr ⟨semicolon, rfl, advanced⟩,
        yields_accept_bind.mpr (.inl ⟨brace, m'', closed, yields_pure.mpr ⟨rfl, rfl⟩⟩)⟩⟩
    | more guard expression others =>
      obtain ⟨m, before, rest⟩ := Passes.append_iff.mp passed
      obtain ⟨semicolon, -, m', advanced, rest⟩ := passes_word rest
      obtain ⟨m'', between, after⟩ := Passes.append_iff.mp rest
      simp only [List.length_append, List.length_cons] at fits rounds
      have guarded := guardOf_complete accepts before guard (by omega) semicolon
      rw [others.headKind_eq _ d.current.kind, ← after.current_kind] at expression
      have next := accepts between expression (by omega)
      have rest := ih after others (by omega) (by omega)
      refine ⟨_, m, guarded, yields_bind.mpr ⟨_, m', yields_expect.mpr ⟨semicolon, rfl, advanced⟩,
        yields_accept_bind.mpr (.inr ⟨current_ne between expression rfl, ?_⟩)⟩⟩
      simp only [Bool.false_eq_true, if_false, yields_bind, yields_pure]
      exact ⟨_, m'', next, _, d, rest, rfl, rfl⟩

/-- A brace that holds an expression and goes on as a block or as a set. -/
theorem brace_complete (accepts : AcceptsExpressions deeper limit) (opened : c.advance = .ok m)
    (before : m.Passes words m') (read : Expression .lowest words m'.current.kind first)
    (fits : words.length ≤ limit)
    (rest : (m'.current.kind = .ifWord ∨ m'.current.kind = .elseWord) ∧
        (∃ pieces, (arms deeper bound false first).Yields m' pieces d ∧ .piecewise pieces = e) ∨
      (m'.current.kind = .comma ∨ m'.current.kind = .rightBrace) ∧
        ∃ others, (members deeper bound).Yields m' others d ∧ .set (first :: others) = e) :
    (brace deeper bound).Yields c e d := by
  rw [brace, yields_advance_bind]
  refine ⟨m, opened, yields_accept_bind.mpr (.inr ⟨current_ne before read rfl, ?_⟩)⟩
  refine yields_bind.mpr ⟨first, m', accepts before read fits, yields_peek_bind.mpr ?_⟩
  rcases rest with ⟨kind | kind, pieces, read, rfl⟩ | ⟨kind | kind, others, read, rfl⟩
  all_goals simp only [kind, yields_bind, yields_pure]
  all_goals exact ⟨_, d, read, rfl, rfl⟩

/-- An expression between two tokens of given kinds, as in parentheses and bars. -/
theorem enclosed_complete {make : Expr → Expr} (accepts : AcceptsExpressions deeper limit)
    (opened : c.advance = .ok m) (passed : m.Passes (words ++ [⟨kind, text⟩]) d)
    (read : Expression .lowest words kind e) (fits : words.length ≤ limit) :
    Yields (do
      let _ ← advance
      let inner ← deeper .lowest
      let _ ← expect kind what
      return make inner) c (make e) d := by
  obtain ⟨m', before, after⟩ := Passes.append_iff.mp passed
  obtain ⟨closing, -, m'', closed, rest⟩ := passes_word after
  obtain rfl := Passes.nil_iff.mp rest
  have inner := accepts before (closing ▸ read) fits
  simp only [yields_bind, yields_advance, yields_expect, yields_pure]
  exact ⟨_, m, ⟨rfl, opened⟩, _, m', inner, _, m'', ⟨closing, rfl, closed⟩, rfl, rfl⟩

theorem operand_complete (accepts : AcceptsExpressions deeper limit)
    (passed : c.Passes words d) (read : Operand words d.current.kind e)
    (fits : words.length ≤ limit + 1) (rounds : words.length ≤ bound) :
    (operand deeper bound).Yields c e d := by
  rw [operand, yields_peek_bind]
  cases read with
  | name =>
    obtain ⟨kind, rfl, m, advanced, rest⟩ := passes_word passed
    obtain rfl := Passes.nil_iff.mp rest
    simp [kind, advanced]
  | integer value | real value =>
    obtain ⟨kind, rfl, m, advanced, rest⟩ := passes_word passed
    obtain rfl := Passes.nil_iff.mp rest
    simp [kind, advanced, value]
  | trueWord | falseWord | undefinedWord =>
    obtain ⟨kind, -, m, advanced, rest⟩ := passes_word passed
    obtain rfl := Passes.nil_iff.mp rest
    simp [kind, advanced]
  | prefixed found expression =>
    obtain ⟨rfl, -, m, advanced, rest⟩ := passes_word passed
    simp only [List.length_cons] at fits
    have inner := accepts rest expression (by omega)
    rcases TokenKind.prefixSymbol_cases found with ⟨kind, rfl⟩ | ⟨kind, rfl⟩
    all_goals simp only [kind, TokenKind.prefixSymbol?, yields_bind, yields_advance, yields_pure]
    all_goals exact ⟨_, m, ⟨rfl, advanced⟩, _, d, inner, rfl, rfl⟩
  | parens expression =>
    obtain ⟨kind, -, m, advanced, rest⟩ := passes_word passed
    simp only [List.length_append, List.length_cons] at fits
    simp only [kind]
    exact @enclosed_complete _ _ _ _ _ _ _ _ _ _ id accepts advanced rest expression (by omega)
  | bars expression =>
    obtain ⟨kind, -, m, advanced, rest⟩ := passes_word passed
    simp only [List.length_append, List.length_cons] at fits
    simp only [kind]
    exact enclosed_complete accepts advanced rest expression (by omega)
  | emptySet =>
    obtain ⟨kind, -, m, advanced, rest⟩ := passes_word passed
    obtain ⟨brace, -, m', closed, rest⟩ := passes_word rest
    obtain rfl := Passes.nil_iff.mp rest
    simp only [kind]
    exact yields_advance_bind.mpr ⟨m, advanced, yields_accept_bind.mpr
      (.inl ⟨brace, m', closed, yields_pure.mpr ⟨rfl, rfl⟩⟩)⟩
  | set expression members =>
    obtain ⟨kind, -, m, advanced, rest⟩ := passes_word passed
    obtain ⟨m', before, after⟩ := Passes.append_iff.mp rest
    simp only [List.length_append, List.length_cons] at fits rounds
    have starts := members.starts d.current.kind
    rw [← after.current_kind] at starts expression
    have others : (Parser.members deeper bound).Yields m' _ d :=
      members_complete accepts after members (by omega) (by omega)
    simp only [kind]
    exact brace_complete accepts advanced before expression (by omega)
      (.inr ⟨starts, _, others, rfl⟩)
  | piecewise expression arms =>
    obtain ⟨kind, -, m, advanced, rest⟩ := passes_word passed
    obtain ⟨m', before, after⟩ := Passes.append_iff.mp rest
    simp only [List.length_append, List.length_cons] at fits rounds
    have starts := arms.starts d.current.kind
    rw [← after.current_kind] at starts expression
    have pieces : (Parser.arms deeper bound false _).Yields m' _ d :=
      arms_complete accepts after arms (by omega) (by omega)
    simp only [kind]
    exact brace_complete accepts advanced before expression (by omega)
      (.inl ⟨starts, _, pieces, rfl⟩)

/-- What a round of climbing does at a token between two operands. -/
theorem climb_infix (found : c.current.kind.infixSymbol? = some symbol)
    (strength : Operator.infixPrecedence? symbol = some binding)
    (run : Yields (if binding.level ≤ precedence.level then return left
      else do
        let _ ← advance
        if symbol = .call then
          climb deeper rounds precedence bound (.call left (← arguments deeper rounds))
        else
          let right ← deeper binding
          climb deeper rounds precedence bound
            (.combination ⟨symbol, .infixed⟩ (some left) (some right))) c e d) :
    (climb deeper rounds precedence (bound + 1) left).Yields c e d := by
  obtain ⟨continues, notBang⟩ := TokenKind.continues_of_infixSymbol found
  rw [climb, yields_peek_bind, continues, if_neg (by decide), if_neg notBang]
  simp only [found, Operator.precedence?, strength]
  exact run

theorem climb_complete (accepts : AcceptsExpressions deeper limit)
    (passed : c.Passes words d) (read : Climb precedence left words d.current.kind e)
    (fits : words.length ≤ limit) (enough : words.length ≤ rounds) (more : words.length < bound) :
    (climb deeper rounds precedence bound left).Yields c e d := by
  induction bound generalizing c words left with
  | zero => omega
  | succ bound ih =>
    cases read with
    | done stops =>
      obtain rfl := Passes.nil_iff.mp passed
      by_cases ends : c.current.kind.endsExpression = true
      · rw [climb, yields_peek_bind, if_pos ends]
        exact yields_pure.mpr ⟨rfl, rfl⟩
      · simp only [TokenKind.endsAt, ends, Bool.false_or, Option.any_eq_true, TokenKind.binding?,
          Option.bind_eq_some_iff, decide_eq_true_eq] at stops
        obtain ⟨binding, ⟨symbol, found, strength⟩, weak⟩ := stops
        apply climb_infix found strength
        rw [if_pos weak]
        exact yields_pure.mpr ⟨rfl, rfl⟩
    | factorial rest =>
      obtain ⟨bang, -, m, advanced, after⟩ := passes_word passed
      simp only [List.length_cons] at fits enough more
      have climbed := ih after rest (by omega) (by omega) (by omega)
      rw [climb, yields_peek_bind, bang, if_neg (by decide), if_pos rfl, yields_advance_bind]
      exact ⟨m, advanced, climbed⟩
    | call strong arguments rest =>
      obtain ⟨paren, -, m, advanced, after⟩ := passes_word passed
      obtain ⟨m', before, after⟩ := Passes.append_iff.mp after
      simp only [List.length_append, List.length_cons] at fits enough more
      have called : (Parser.arguments deeper rounds).Yields m _ m' :=
        arguments_complete accepts before arguments (by omega) (by omega)
      have climbed := ih after rest (by omega) (by omega) (by omega)
      have found : c.current.kind.infixSymbol? = some .call := by rw [paren]; rfl
      apply climb_infix found rfl
      rw [if_neg (by omega), if_pos rfl, yields_advance_bind]
      exact ⟨m, advanced, yields_bind.mpr ⟨_, m', called, climbed⟩⟩
    | infixed found other strength strong expression rest =>
      obtain ⟨rfl, -, m, advanced, after⟩ := passes_word passed
      obtain ⟨m', before, after⟩ := Passes.append_iff.mp after
      simp only [List.length_append, List.length_cons] at fits enough more
      rw [← after.current_kind] at expression
      have right := accepts before expression (by omega)
      have climbed := ih after rest (by omega) (by omega) (by omega)
      apply climb_infix found strength
      rw [if_neg (by omega), if_neg other, yields_advance_bind]
      exact ⟨m, advanced, yields_bind.mpr ⟨_, m', right, climbed⟩⟩

end

/-- The expressions within both bounds are accepted. Those inside an operand have fewer words
than the expression around them, so one unit of nesting for each word is enough. -/
theorem expression_complete : AcceptsExpressions (expression bound nesting) (min nesting (bound - 1)) := by
  induction nesting with
  | zero =>
    intro precedence words e c d _ read fits
    have := read.length_pos
    omega
  | succ nesting ih =>
    intro precedence words e c d passed read fits
    rw [expression, yields_bind]
    cases read with
    | intro operand climb =>
      obtain ⟨m, before, after⟩ := Passes.append_iff.mp passed
      have := operand.length_pos
      rw [List.length_append] at fits
      rw [← after.current_kind] at operand
      exact ⟨_, m, operand_complete ih before operand (by omega) (by omega),
        climb_complete ih after climb (by omega) (by omega) (by omega)⟩

theorem parameters_complete (passed : c.Passes words d) (read : Parameters before words names)
    (rounds : words.length ≤ bound) : (parameters function bound before).Yields c names d := by
  induction bound generalizing c words before with
  | zero => cases read <;> simp at rounds
  | succ bound ih =>
    rw [parameters, yields_accept_bind]
    cases read with
    | done =>
      obtain ⟨paren, -, m, closed, rest⟩ := passes_word passed
      obtain rfl := Passes.nil_iff.mp rest
      exact .inl ⟨paren, m, closed, yields_pure.mpr ⟨rfl, rfl⟩⟩
    | last fresh =>
      obtain ⟨name, rfl, m, advanced, after⟩ := passes_word passed
      have paren := (passes_word after).1
      simp only [List.length_cons, List.length_nil] at rounds
      have rest := ih after .done (by simp; omega)
      refine .inr ⟨by simp [name], ?_⟩
      simp only [Bool.false_eq_true, if_false, yields_bind, yields_expect]
      refine ⟨_, m, ⟨name, rfl, advanced⟩, ?_⟩
      rw [if_neg fresh, yields_bind]
      exact ⟨(), m, yields_separator.mpr (.inr ⟨by simp [paren], paren, rfl⟩), rest⟩
    | more fresh others =>
      obtain ⟨name, rfl, m, advanced, after⟩ := passes_word passed
      obtain ⟨comma, -, m', separated, after⟩ := passes_word after
      simp only [List.length_cons] at rounds
      have rest := ih after others (by omega)
      refine .inr ⟨by simp [name], ?_⟩
      simp only [Bool.false_eq_true, if_false, yields_bind, yields_expect]
      refine ⟨_, m, ⟨name, rfl, advanced⟩, ?_⟩
      rw [if_neg fresh, yields_bind]
      exact ⟨(), m', yields_separator.mpr (.inl ⟨comma, separated⟩), rest⟩

/-- An expression statement begins with neither word that opens a binding. -/
theorem statement_complete (passed : c.Passes words d) (read : Reading.Statement words s)
    (fits : words.length ≤ nesting) (rounds : words.length < bound) :
    (statement bound nesting).Yields c s d := by
  rw [statement, yields_peek_bind]
  cases read with
  | assignment expression =>
    obtain ⟨letWord, -, c₁, a₁, rest⟩ := passes_word passed
    obtain ⟨name, rfl, c₂, a₂, rest⟩ := passes_word rest
    obtain ⟨assign, -, c₃, a₃, rest⟩ := passes_word rest
    obtain ⟨c₄, before, after⟩ := Passes.append_iff.mp rest
    obtain ⟨semicolon, -, c₅, a₄, rest⟩ := passes_word after
    obtain rfl := Passes.nil_iff.mp rest
    simp only [List.length_append, List.length_cons] at fits rounds
    have value : (Parser.expression bound nesting .lowest).Yields c₃ _ c₄ :=
      expression_complete before (semicolon ▸ expression) (by omega)
    simp only [letWord, Parser.assignment, yields_bind, yields_advance, yields_expect, yields_pure]
    exact ⟨_, c₁, ⟨rfl, a₁⟩, _, c₂, ⟨name, rfl, a₂⟩, _, c₃, ⟨assign, rfl, a₃⟩, _, c₄, value,
      _, c₅, ⟨semicolon, rfl, a₄⟩, rfl, rfl⟩
  | declaration parameters expression =>
    obtain ⟨fnWord, -, c₁, a₁, rest⟩ := passes_word passed
    obtain ⟨name, rfl, c₂, a₂, rest⟩ := passes_word rest
    obtain ⟨paren, -, c₃, a₃, rest⟩ := passes_word rest
    obtain ⟨c₄, names, rest⟩ := Passes.append_iff.mp rest
    obtain ⟨assign, -, c₅, a₄, rest⟩ := passes_word rest
    obtain ⟨c₆, before, after⟩ := Passes.append_iff.mp rest
    obtain ⟨semicolon, -, c₇, a₅, rest⟩ := passes_word after
    obtain rfl := Passes.nil_iff.mp rest
    simp only [List.length_append, List.length_cons] at fits rounds
    have named : (Parser.parameters c₁.current.text bound []).Yields c₃ _ c₄ :=
      parameters_complete names parameters (by omega)
    have body : (Parser.expression bound nesting .lowest).Yields c₅ _ c₆ :=
      expression_complete before (semicolon ▸ expression) (by omega)
    simp only [fnWord, Parser.declaration, yields_bind, yields_advance, yields_expect, yields_pure]
    exact ⟨_, c₁, ⟨rfl, a₁⟩, _, c₂, ⟨name, rfl, a₂⟩, _, c₃, ⟨paren, rfl, a₃⟩, _, c₄, named,
      _, c₅, ⟨assign, rfl, a₄⟩, _, c₆, body, _, c₇, ⟨semicolon, rfl, a₅⟩, rfl, rfl⟩
  | expression expression =>
    obtain ⟨m, before, after⟩ := Passes.append_iff.mp passed
    obtain ⟨semicolon, -, m', advanced, rest⟩ := passes_word after
    obtain rfl := Passes.nil_iff.mp rest
    simp only [List.length_append, List.length_cons] at fits rounds
    have value : (Parser.expression bound nesting .lowest).Yields c _ m :=
      expression_complete before (semicolon ▸ expression) (by omega)
    have notLet : c.current.kind ≠ .letWord := current_ne before expression rfl
    have notFn : c.current.kind ≠ .fnWord := current_ne before expression rfl
    split
    · contradiction
    · contradiction
    · simp only [yields_bind, yields_expect, yields_pure]
      exact ⟨_, m, value, _, m', ⟨semicolon, rfl, advanced⟩, rfl, rfl⟩

theorem statements_complete (passed : c.Passes words d) (ended : d.current.kind = .endOfInput)
    (read : Reading.Program words program) (fits : words.length ≤ nesting)
    (rounds : words.length < bound) (enough : words.length < count) :
    (statements bound nesting count).Yields c program d := by
  induction count generalizing c words program with
  | zero => omega
  | succ count ih =>
    rw [statements, yields_peek_bind]
    cases read with
    | done =>
      obtain rfl := Passes.nil_iff.mp passed
      rw [if_pos ended]
      exact yields_pure.mpr ⟨rfl, rfl⟩
    | more statement others =>
      obtain ⟨m, before, after⟩ := Passes.append_iff.mp passed
      have := statement.length_pos
      simp only [List.length_append] at fits rounds enough
      have first : (Parser.statement bound nesting).Yields c _ m :=
        statement_complete before statement (by omega) (by omega)
      have rest := ih after others (by omega) (by omega) (by omega)
      rw [if_neg (before.inside this)]
      simp only [yields_bind, yields_pure]
      exact ⟨_, m, first, _, d, rest, rfl, rfl⟩

end Parser

end PiecewiseLang
