import PiecewiseLang.Proofs.Parsing.Completeness
import PiecewiseLang.Proofs.Parsing.Soundness

/-! The loops of the parser, each as rounds over what has been read so far. A round fails, leaves
the loop with its result, or goes on; and a round that goes on has passed a token. -/
namespace PiecewiseLang

open Cursor Reading

namespace Cursor

variable {c d e : Cursor}

/-- The cursor `d` stands at least one token behind `c`. -/
def Before (c d : Cursor) : Prop := ∃ words, c.Passes words d ∧ 0 < words.length

theorem Before.of_advance (inside : c.current.kind ≠ .endOfInput) (advanced : c.advance = .ok d) :
    c.Before d :=
  ⟨_, .step inside advanced .done, Nat.zero_lt_one⟩

theorem Before.then_passes (first : c.Before d) (rest : d.Passes words e) : c.Before e := by
  obtain ⟨words, passed, some⟩ := first
  exact ⟨_, passed.append rest, by rw [List.length_append]; omega⟩

theorem Passes.then_before (first : c.Passes words d) (rest : d.Before e) : c.Before e := by
  obtain ⟨words, passed, some⟩ := rest
  exact ⟨_, first.append passed, by rw [List.length_append]; omega⟩

end Cursor

namespace Parser

/-- What a round of a loop comes to, if it does not fail. -/
inductive Turn (σ α : Type) where
  | goOn (state : σ)
  | leave (result : α)

/-- Rounds from a state on until one leaves, at most as many as the bound. -/
def loop (round : σ → Parser (Turn σ α)) : (bound : Nat) → σ → Parser α
  | 0, _ => tooDeep
  | bound + 1, state => do
    match ← round state with
    | .goOn next => loop round bound next
    | .leave result => return result

/-- A round that goes on has passed a token. -/
def Advances (round : σ → Parser (Turn σ α)) : Prop :=
  ∀ {state c next d}, (round state).Yields c (.goOn next) d → c.Before d

/-- A parser that takes rounds from a state on, each of which fails, leaves or has passed a token
before the next. -/
structure IsLoop (p : (bound : Nat) → Parser α) (round : σ → Parser (Turn σ α)) (start : σ) :
    Prop where
  rounds : ∀ bound, p bound = loop round bound start
  advances : Advances round

section
variable (deeper : Precedence → Parser Expr)

def argumentRound (before : List Expr) : Parser (Turn (List Expr) (List Expr)) := do
  if ← accept .rightParen then return .leave before
  else
    let e ← deeper .lowest
    separator .rightParen .argumentSeparator
    return .goOn (before ++ [e])

def memberRound (before : List Expr) : Parser (Turn (List Expr) (List Expr)) := do
  if ← accept .rightBrace then return .leave before
  else
    let _ ← expect .comma .memberSeparator
    if ← accept .rightBrace then return .leave before
    else
      let e ← deeper .lowest
      return .goOn (before ++ [e])

/-- The arms before, whether one of them was the `else`, and the value of the next one. -/
structure Block where
  before : List (Expr × Expr)
  seenElse : Bool
  value : Expr

def armRound (block : Block) : Parser (Turn Block (List (Expr × Expr))) := do
  let (isElse, guard) ← guardOf deeper block.seenElse
  let _ ← expect .semicolon .endOfArm
  if ← accept .rightBrace then return .leave (block.before ++ [(block.value, guard)])
  else
    let next ← deeper .lowest
    return .goOn ⟨block.before ++ [(block.value, guard)], block.seenElse || isElse, next⟩

def climbRound (rounds : Nat) (precedence : Precedence) (left : Expr) :
    Parser (Turn Expr Expr) := do
  let t ← peek
  if t.kind.endsExpression then return .leave left
  else if t.kind = .bang then
    let _ ← advance
    return .goOn (.combination ⟨.factorial, .postfixed⟩ (some left) none)
  else match t.kind.infixSymbol? with
    | none => fail (.unexpectedAfter t) t.position
    | some symbol =>
      let operator : Operator := ⟨symbol, .infixed⟩
      match operator.precedence? with
      | none => fail (.illegalOperator operator) t.position
      | some binding =>
        if binding.level ≤ precedence.level then return .leave left
        else
          let _ ← advance
          if symbol = .call then return .goOn (.call left (← arguments deeper rounds))
          else return .goOn (.combination operator (some left) (some (← deeper binding)))

end

def parameterRound (function : String) (before : List String) :
    Parser (Turn (List String) (List String)) := do
  if ← accept .rightParen then return .leave before
  else
    let t ← expect .name (.parameter function)
    if t.text ∈ before then fail (.duplicateParameter t.text function) t.position
    else
      separator .rightParen (.parameterSeparator function)
      return .goOn (before ++ [t.text])

def statementRound (statement : Parser Statement) (before : List Statement) :
    Parser (Turn (List Statement) (List Statement)) := do
  if (← peek).kind = .endOfInput then return .leave before
  else
    let s ← statement
    return .goOn (before ++ [s])

section
variable {deeper : Precedence → Parser Expr}

theorem arguments_loop : loop (argumentRound deeper) bound before =
    (before ++ ·) <$> arguments deeper bound := by
  induction bound generalizing before with
  | zero => rfl
  | succ bound ih =>
    simp only [loop, argumentRound, arguments, bind_assoc, map_bind]
    refine bind_congr fun closed => ?_
    cases closed <;> simp [ih]

theorem members_loop : loop (memberRound deeper) bound before =
    (before ++ ·) <$> members deeper bound := by
  induction bound generalizing before with
  | zero => rfl
  | succ bound ih =>
    simp only [loop, memberRound, members, bind_assoc, map_bind]
    refine bind_congr fun closed => ?_
    cases closed with
    | true => simp
    | false =>
      simp only [Bool.false_eq_true, if_false, bind_assoc, map_bind]
      refine bind_congr fun _ => bind_congr fun closed => ?_
      cases closed <;> simp [ih]

theorem arms_loop (block : Block) : loop (armRound deeper) bound block =
    (block.before ++ ·) <$> arms deeper bound block.seenElse block.value := by
  induction bound generalizing block with
  | zero => rfl
  | succ bound ih =>
    simp only [loop, armRound, arms, bind_assoc, map_bind]
    refine bind_congr fun guard => bind_congr fun _ => bind_congr fun closed => ?_
    cases closed <;> simp [ih]

theorem climb_loop : loop (climbRound deeper rounds precedence) bound left =
    climb deeper rounds precedence bound left := by
  induction bound generalizing left with
  | zero => rfl
  | succ bound ih =>
    simp only [loop, climbRound, climb, bind_assoc]
    refine bind_congr fun t => ?_
    split
    · rfl
    split
    · simp [ih]
    cases found : t.kind.infixSymbol? with
    | none => rfl
    | some symbol =>
      cases strength : Operator.precedence? ⟨symbol, .infixed⟩ with
      | none =>
        simp only [strength]
        rfl
      | some binding =>
        simp only [strength]
        split
        · rfl
        · rw [bind_assoc]
          refine bind_congr fun _ => ?_
          split <;> simp [ih]

end

theorem parameters_loop : loop (parameterRound function) bound before =
    parameters function bound before := by
  induction bound generalizing before with
  | zero => rfl
  | succ bound ih =>
    simp only [loop, parameterRound, parameters, bind_assoc]
    refine bind_congr fun closed => ?_
    cases closed with
    | true => rfl
    | false =>
      simp only [Bool.false_eq_true, if_false, bind_assoc]
      refine bind_congr fun t => ?_
      split
      · rfl
      · simp [ih]

theorem statements_loop : loop (statementRound (statement bound nesting)) count before =
    (before ++ ·) <$> statements bound nesting count := by
  induction count generalizing before with
  | zero => rfl
  | succ count ih =>
    simp only [loop, statementRound, statements, bind_assoc, map_bind]
    refine bind_congr fun t => ?_
    split <;> simp [ih]

section
variable {deeper : Precedence → Parser Expr} {c d : Cursor}

theorem ReadsExpressions.before (reads : ReadsExpressions deeper)
    (run : (deeper precedence).Yields c e d) : c.Before d := by
  obtain ⟨words, passed, expression⟩ := reads run
  exact ⟨words, passed, expression.length_pos⟩

theorem separator_passes (run : (separator closing what).Yields c u d) :
    ∃ words, c.Passes words d := by
  rcases yields_separator.mp run with ⟨comma, advanced⟩ | ⟨-, -, rfl⟩
  · exact ⟨_, passes_kind comma (by decide) advanced .done⟩
  · exact ⟨[], .done⟩

theorem argumentRound_advances (reads : ReadsExpressions deeper) :
    Advances (argumentRound deeper) := by
  intro before c next d run
  rw [argumentRound, yields_accept_bind] at run
  rcases run with ⟨-, m, -, run⟩ | ⟨-, run⟩
  · cases (yields_pure.mp run).1
  simp only [Bool.false_eq_true, if_false, yields_bind, yields_pure] at run
  obtain ⟨e, m, first, _, _, separated, -, rfl⟩ := run
  obtain ⟨words, passed⟩ := separator_passes separated
  exact (reads.before first).then_passes passed

theorem memberRound_advances (reads : ReadsExpressions deeper) :
    Advances (memberRound deeper) := by
  intro before c next d run
  rw [memberRound, yields_accept_bind] at run
  rcases run with ⟨-, m, -, run⟩ | ⟨-, run⟩
  · cases (yields_pure.mp run).1
  simp only [Bool.false_eq_true, if_false] at run
  obtain ⟨_, m, found, run⟩ := yields_bind.mp run
  obtain ⟨comma, -, advanced⟩ := yields_expect.mp found
  rcases yields_accept_bind.mp run with ⟨-, m', -, run⟩ | ⟨-, run⟩
  · cases (yields_pure.mp run).1
  simp only [Bool.false_eq_true, if_false, yields_bind, yields_pure] at run
  obtain ⟨e, _, first, -, rfl⟩ := run
  exact (passes_kind comma (by decide) advanced .done).then_before (reads.before first)

theorem armRound_advances (reads : ReadsExpressions deeper) : Advances (armRound deeper) := by
  intro block c next d run
  rw [armRound, yields_bind] at run
  obtain ⟨⟨isElse, g⟩, c₁, guarded, run⟩ := run
  obtain ⟨_, m, found, run⟩ := yields_bind.mp run
  obtain ⟨semicolon, -, advanced⟩ := yields_expect.mp found
  obtain ⟨words, passed, guard⟩ := guardOf_sound reads guarded semicolon
  rcases yields_accept_bind.mp run with ⟨-, m', -, run⟩ | ⟨-, run⟩
  · cases (yields_pure.mp run).1
  simp only [Bool.false_eq_true, if_false, yields_bind, yields_pure] at run
  obtain ⟨e, _, following, -, rfl⟩ := run
  have closed := passed.append (passes_kind semicolon (by decide) advanced .done)
  exact closed.then_before (reads.before following)

theorem climbRound_advances (reads : ReadsExpressions deeper) :
    Advances (climbRound deeper rounds precedence) := by
  intro left c next d run
  rw [climbRound, yields_peek_bind] at run
  split at run
  · cases (yields_pure.mp run).1
  case isFalse continues =>
    have inside : c.current.kind ≠ .endOfInput := by
      intro ended
      rw [ended] at continues
      exact continues rfl
    split at run
    · obtain ⟨m, advanced, run⟩ := yields_advance_bind.mp run
      obtain ⟨-, rfl⟩ := yields_pure.mp run
      exact .of_advance inside advanced
    split at run
    · exact absurd run not_yields_fail
    dsimp only at run
    split at run
    · exact absurd run not_yields_fail
    split at run
    · cases (yields_pure.mp run).1
    obtain ⟨m, advanced, run⟩ := yields_advance_bind.mp run
    have passed := Before.of_advance inside advanced
    split at run
    · simp only [yields_bind, yields_pure] at run
      obtain ⟨es, _, taken, -, rfl⟩ := run
      obtain ⟨words, more, -⟩ := arguments_sound reads taken
      exact passed.then_passes more
    · simp only [yields_bind, yields_pure] at run
      obtain ⟨right, _, taken, -, rfl⟩ := run
      obtain ⟨words, more, -⟩ := reads taken
      exact passed.then_passes more

end

theorem parameterRound_advances : Advances (parameterRound function) := by
  intro before c next d run
  rw [parameterRound, yields_accept_bind] at run
  rcases run with ⟨-, m, -, run⟩ | ⟨-, run⟩
  · cases (yields_pure.mp run).1
  simp only [Bool.false_eq_true, if_false] at run
  obtain ⟨_, m, found, run⟩ := yields_bind.mp run
  obtain ⟨name, rfl, advanced⟩ := yields_expect.mp found
  split at run
  · exact absurd run not_yields_fail
  simp only [yields_bind, yields_pure] at run
  obtain ⟨_, _, separated, -, rfl⟩ := run
  obtain ⟨words, passed⟩ := separator_passes separated
  exact ⟨_, passes_kind name (by decide) advanced passed, Nat.succ_pos _⟩

theorem statementRound_advances : Advances (statementRound (statement bound nesting)) := by
  intro before c next d run
  rw [statementRound, yields_peek_bind] at run
  split at run
  · cases (yields_pure.mp run).1
  simp only [yields_bind, yields_pure] at run
  obtain ⟨s, _, first, -, rfl⟩ := run
  obtain ⟨words, passed, read⟩ := statement_sound first
  exact ⟨words, passed, read.length_pos⟩

section
variable {deeper : Precedence → Parser Expr}

theorem arguments_eq_loop (bound : Nat) :
    arguments deeper bound = loop (argumentRound deeper) bound [] := by simp [arguments_loop]

theorem members_eq_loop (bound : Nat) :
    members deeper bound = loop (memberRound deeper) bound [] := by simp [members_loop]

theorem arms_eq_loop (bound : Nat) (value : Expr) :
    arms deeper bound false value = loop (armRound deeper) bound ⟨[], false, value⟩ := by
  simp [arms_loop]

theorem arguments_isLoop (reads : ReadsExpressions deeper) :
    IsLoop (arguments deeper) (argumentRound deeper) [] where
  rounds := arguments_eq_loop
  advances := argumentRound_advances reads

theorem members_isLoop (reads : ReadsExpressions deeper) :
    IsLoop (members deeper) (memberRound deeper) [] where
  rounds := members_eq_loop
  advances := memberRound_advances reads

theorem arms_isLoop (reads : ReadsExpressions deeper) (value : Expr) :
    IsLoop (arms deeper · false value) (armRound deeper) ⟨[], false, value⟩ where
  rounds bound := arms_eq_loop bound value
  advances := armRound_advances reads

theorem climb_isLoop (reads : ReadsExpressions deeper) (rounds : Nat) (precedence : Precedence)
    (left : Expr) :
    IsLoop (climb deeper rounds precedence · left) (climbRound deeper rounds precedence) left where
  rounds _ := climb_loop.symm
  advances := climbRound_advances reads

end

theorem parameters_isLoop (function : String) :
    IsLoop (parameters function · []) (parameterRound function) [] where
  rounds _ := parameters_loop.symm
  advances := parameterRound_advances

theorem statements_isLoop (bound nesting : Nat) :
    IsLoop (statements bound nesting) (statementRound (statement bound nesting)) [] where
  rounds count := by simp [statements_loop]
  advances := statementRound_advances

end Parser

end PiecewiseLang
