import PiecewiseLang.Proofs.Parsing.Limits
import PiecewiseLang.Proofs.Parsing.Supplies

/-! How deeply expressions nest while a supply of tokens is parsed: never more deeply than there
are tokens, and one. So a parser that may open that many expressions inside one another reads
what a parser without limits reads, and it is never stopped for its nesting. -/
namespace PiecewiseLang

open Cursor

/-- The number of tokens before the end of input. -/
def countInside (tokens : List Token) : Nat :=
  (tokens.takeWhile (·.kind ≠ .endOfInput)).length

theorem countInside_cons (inside : t.kind ≠ .endOfInput) (tokens : List Token) :
    countInside (t :: tokens) = countInside tokens + 1 := by
  simp [countInside, inside]

namespace Supply

/-- After a token a supply can hand out fewer. -/
theorem next_size {supply : Supply} (next : supply.next = .ok (some (t, rest))) :
    rest.size < supply.size := by
  cases supply with
  | listed tokens =>
    cases tokens with
    | nil => cases next
    | cons _ tokens =>
      cases next
      exact Nat.lt_succ_self _
  | source position chars ended =>
    have shorter := skipTrivia_length false position chars
    simp only [Supply.next] at next
    split at next
    case h_1 =>
      cases ended with
      | true => cases next
      | false =>
        cases next
        exact Nat.succ_pos _
    case h_2 c others found =>
      obtain ⟨lexeme, -, same⟩ := bind_eq_ok.mp next
      cases same
      rw [found, List.length_cons] at shorter
      simp only [size, List.length_drop]
      omega

theorem length_of_take {supply : Supply} (taken : take count supply = .ok tokens) :
    tokens.length ≤ count := by
  induction count generalizing supply tokens with
  | zero =>
    cases taken
    exact Nat.le_refl 0
  | succ count ih =>
    obtain ⟨out, -, taken⟩ := bind_eq_ok.mp taken
    cases out with
    | none =>
      cases taken
      exact Nat.zero_le _
    | some drawn =>
      obtain ⟨others, more, whole⟩ := bind_eq_ok.mp taken
      cases whole
      exact Nat.succ_le_succ (ih more)

theorem toList_listed (tokens : List Token) : (listed tokens).toList = .ok tokens := by
  change take tokens.length (listed tokens) = .ok tokens
  induction tokens with
  | nil => rfl
  | cons t tokens ih =>
    rw [List.length_cons, take_of_next rfl, ih]
    rfl

/-- A cursor that is drawn from a supply is followed by those drawn from the rest of it. -/
theorem below_of_next {supply : Supply} (drawn : draw position supply = .ok c)
    (rest : ∀ {others d}, supply.next = .ok (some (c.current, others)) →
      c.current.kind ≠ .endOfInput → draw c.current.position others = .ok d → d.Below n) :
    c.Below (n + 1) := by
  by_cases ended : c.current.kind = .endOfInput
  · exact .ended ended
  refine .more fun d advanced => ?_
  rw [advance_inside ended] at advanced
  refine rest ?_ ended advanced
  unfold draw at drawn
  split at drawn
  case h_1 => cases drawn
  case h_2 =>
    cases drawn
    exact absurd rfl ended
  case h_3 next =>
    cases drawn
    exact next

theorem below_of_size {supply : Supply} (drawn : draw position supply = .ok c)
    (le : supply.size ≤ most) : c.Below (most + 1) := by
  induction most generalizing supply position c with
  | zero =>
    refine below_of_next drawn fun next _ _ => ?_
    exact absurd (next_size next) (by omega)
  | succ most ih =>
    refine below_of_next drawn fun next _ later => ih later ?_
    have smaller := next_size next
    omega

theorem below_of_take {supply : Supply} (drawn : draw position supply = .ok c)
    (taken : take count supply = .ok tokens) (le : supply.size ≤ count) :
    c.Below (countInside tokens + 1) := by
  induction count generalizing supply position c tokens with
  | zero =>
    refine below_of_next drawn fun next _ _ => ?_
    exact absurd (next_size next) (by omega)
  | succ count ih =>
    refine below_of_next drawn fun {others d} next inside later => ?_
    rw [take_of_next next] at taken
    cases more : take count others with
    | error fault =>
      rw [more] at taken
      cases taken
    | ok behind =>
      rw [more] at taken
      cases taken
      have smaller := next_size next
      rw [countInside_cons inside]
      exact ih later more (by omega)

end Supply

/-- A number above that of the tokens left, whatever comes. -/
def Cursor.room (c : Cursor) : Nat := c.supply.size + 2

theorem Cursor.below_room (c : Cursor) : c.Below c.room := by
  by_cases ended : c.current.kind = .endOfInput
  · exact .ended ended
  · refine .more fun d advanced => ?_
    rw [Supply.advance_inside ended] at advanced
    exact Supply.below_of_size advanced (Nat.le_refl _)

theorem Cursor.fault_of_draw {supply : Supply} {failure : ParseFailure}
    (failed : draw position supply = .error failure) : ∃ fault, failure = .fault fault := by
  unfold draw at failed
  split at failed
  · cases failed
    exact ⟨_, rfl⟩
  · cases failed
  · cases failed

namespace Parser

variable {c : Cursor} {n bound nesting : Nat}

/-- Expressions nested to a depth, where what is still deeper is parsed in another way. -/
def nested (beyond : Precedence → Parser Expr) (bound : Nat) : Nat → Precedence → Parser Expr
  | 0 => beyond
  | depth + 1 => level (nested beyond bound depth) bound

/-- A parser of expressions without limits: everywhere it is a level over itself, with more rounds
for the loops than there are tokens left. -/
def Unlimited (parse : Precedence → Parser Expr) : Prop :=
  ∀ {c n bound} precedence, c.Below (n + 1) → n < bound →
    (parse precedence).run c = (level parse bound precedence).run c

theorem nested_settles (beyond : Precedence → Parser Expr) (below : c.Below n) (fits : n ≤ nesting)
    (enough : n ≤ bound) (enough' : n ≤ bound') (precedence : Precedence) :
    Settles (expression bound nesting precedence) (nested beyond bound' n precedence) c :=
  expression_settles (nested beyond bound') (fun _ _ _ => rfl) enough' below (Nat.le_refl n) fits
    enough precedence

theorem Unlimited.settles (unlimited : Unlimited parse) (below : c.Below n) (fits : n ≤ nesting)
    (enough : n ≤ bound) (precedence : Precedence) :
    Settles (expression bound nesting precedence) (parse precedence) c :=
  expression_settles (fun _ => parse)
    (fun precedence less below => unlimited precedence below less) (Nat.le_refl n) below
    (Nat.le_refl n) fits enough precedence

/-- Limits that are above the number of tokens left do not matter. -/
theorem expression_limits (below : c.Below n) (fits : n ≤ nesting) (fits' : n ≤ nesting')
    (enough : n ≤ bound) (enough' : n ≤ bound') (precedence : Precedence) :
    Settles (expression bound nesting precedence) (expression bound' nesting' precedence) c :=
  (nested_settles (fun _ => tooDeep) below fits enough (Nat.le_refl n) precedence).trans
    (nested_settles _ below fits' enough' (Nat.le_refl n) precedence).symm

/-- The parser whose limits grow with what is left to parse. -/
def growing (precedence : Precedence) : Parser Expr := fun c =>
  expression c.room c.room precedence c

-- Of the functions and not of their runs, which would be compared by computing with the room.
theorem growing_eq (precedence : Precedence) (c : Cursor) :
    growing precedence c = expression c.room c.room precedence c := rfl

theorem growing_settles (below : c.Below n) (fits : n ≤ nesting) (enough : n ≤ bound)
    (precedence : Precedence) :
    Settles (expression bound nesting precedence) (growing precedence) c := by
  have settles : Settles (expression bound nesting precedence)
      (expression c.room c.room precedence) c :=
    expression_limits (below.min c.below_room) (by omega) (Nat.min_le_right _ _) (by omega)
      (Nat.min_le_right _ _) precedence
  exact settles.like rfl (growing_eq precedence c)

theorem growing_unlimited : Unlimited growing := by
  intro c n bound precedence below enough
  have inner : InnerSettles n (expression bound n) growing :=
    ⟨expression_sound, fun below => growing_settles below (Nat.le_refl n) (Nat.le_of_lt enough) _⟩
  have once := level_settles inner below (Nat.le_of_lt enough) (Nat.le_of_lt enough) precedence
  have whole := growing_settles below (Nat.le_refl _) enough precedence
  exact whole.same.symm.trans once.same

section
variable (bound : Nat) (value : Parser Expr)

/-- Statements over a parser for the expressions in them. -/
def assignmentOf : Parser Statement := do
  let _ ← advance
  let name ← expect .name .assignedName
  let _ ← expect .assign (.assignSign name.text)
  let e ← value
  let _ ← expect .semicolon (.endOfAssignment name.text)
  return .assignment name.text e

def declarationOf : Parser Statement := do
  let _ ← advance
  let name ← expect .name .functionName
  let _ ← expect .leftParen (.openParameters name.text)
  let names ← parameters name.text bound []
  let _ ← expect .assign (.bodySign name.text)
  let body ← value
  let _ ← expect .semicolon (.endOfDeclaration name.text)
  return .declaration name.text names body

def statementOf : Parser Statement := do
  match (← peek).kind with
  | .letWord => assignmentOf value
  | .fnWord => declarationOf bound value
  | _ =>
    let e ← value
    let _ ← expect .semicolon .endOfExpression
    return .expression e

end

theorem statement_eq (bound nesting : Nat) :
    statement bound nesting = statementOf bound (expression bound nesting .lowest) := rfl

/-- A program over a parser of expressions. -/
def programOf (parse : Precedence → Parser Expr) (bound : Nat) : Parser (List Statement) :=
  loop (statementRound (statementOf bound (parse .lowest))) bound []

/-- One expression over a parser of expressions, and nothing behind it. There is no loop around
it, so no bound on one is used. -/
def wholeOf (parse : Precedence → Parser Expr) (_ : Nat) : Parser Expr := do
  let e ← parse .lowest
  let last ← peek
  if last.kind = .endOfInput then return e else fail (.trailing last) last.position

/-- What a parser gives on a supply of tokens. -/
def onSupply (p : Parser α) (supply : Supply) : Except ParseFailure α := do
  let (a, _) ← p.run (← Cursor.start supply)
  return a

theorem parseTokens_eq (nesting : Nat) (supply : Supply) : parseTokens nesting supply =
    (programOf (expression (loopBound supply) nesting) (loopBound supply)).onSupply supply := by
  rw [programOf, ← statement_eq, ← (statements_isLoop _ _).rounds]
  rfl

/-- The one expression that a supply of tokens consists of. -/
def parseOne (nesting : Nat) (supply : Supply) : Except ParseFailure Expr :=
  (wholeOf (expression (loopBound supply) nesting) (loopBound supply)).onSupply supply

theorem parseExpr_eq (nesting : Nat) (source : String) :
    parseExpr nesting source = parseOne nesting (.ofSource source) := by
  simp only [parseExpr, parseOne, onSupply]
  refine bind_congr fun c => ?_
  rw [wholeOf, run_bind]
  cases (expression (loopBound (.ofSource source)) nesting .lowest).run c with
  | error failure => rfl
  | ok result =>
    obtain ⟨e, d⟩ := result
    change (if d.current.kind = .endOfInput then Except.ok e else _) =
      Except.bind ((if d.current.kind = .endOfInput then pure e else _ : Parser Expr).run d) _
    split <;> rfl

section
variable {parse parse' : Precedence → Parser Expr} {bound' : Nat}

theorem parameters_settles (below : c.Below n) (enough : n ≤ bound) (enough' : n ≤ bound')
    (function : String) :
    Settles (parameters function bound []) (parameters function bound' []) c := by
  rw [← parameters_loop, ← parameters_loop]
  refine loop_settles parameterRound_advances ?_ below enough enough' []
  intro before c below
  refine .accept below _ (by decide) (fun _ => .pure _) ?_
  refine .expect below _ (by decide) _ fun below => ?_
  split
  · exact Settles.fail (by simp) _
  · exact .separator below _ _ fun _ => .pure _

/-- The end of a statement after the sign before its last expression. -/
theorem body_settles (inner : InnerSettles n parse parse') (below : c.Below n)
    (sign what : Expectation) (make : Expr → Statement) :
    Settles (do
      let _ ← expect .assign sign
      let e ← parse .lowest
      let _ ← expect .semicolon what
      return make e) (do
      let _ ← expect .assign sign
      let e ← parse' .lowest
      let _ ← expect .semicolon what
      return make e) c := by
  refine .expect below _ (by decide) _ fun below => inner.bind below fun below => ?_
  exact .expect below _ (by decide) _ fun _ => .pure _

theorem statement_settles (inner : InnerSettles n parse parse') (below : c.Below n)
    (enough : n ≤ bound) (enough' : n ≤ bound') :
    Settles (statementOf bound (parse .lowest)) (statementOf bound' (parse' .lowest)) c := by
  have more := below.mono (Nat.le_succ n)
  refine .peek ?_
  split
  case h_1 letWord =>
    refine .advance more (by simp [letWord]) fun below => ?_
    refine .expect below _ (by decide) _ fun below => ?_
    exact body_settles inner below _ _ _
  case h_2 fnWord =>
    refine .advance more (by simp [fnWord]) fun below => ?_
    refine .expect below _ (by decide) _ fun below => ?_
    refine .expect below _ (by decide) _ fun below => ?_
    refine (parameters_settles below enough enough' _).bind fun {names d} run => ?_
    obtain ⟨words, passed, -⟩ := parameters_sound run
    exact body_settles inner (below.after passed) _ _ _
  case h_3 =>
    refine inner.bind below fun below => ?_
    exact .expect below _ (by decide) _ fun _ => .pure _

end

theorem programOf_settles {parse : Precedence → Parser Expr}
    (inner : InnerSettles n (expression bound nesting) parse) (below : c.Below n)
    (enough : n ≤ bound) (enough' : n ≤ bound') :
    Settles (programOf (expression bound nesting) bound) (programOf parse bound') c := by
  refine loop_settles statementRound_advances ?_ below enough enough' []
  intro before c below
  refine .peek ?_
  split
  · exact .pure _
  · exact (statement_settles inner below enough enough').map _

theorem wholeOf_settles {parse parse' : Precedence → Parser Expr}
    (inner : InnerSettles n parse parse') (below : c.Below n) :
    Settles (wholeOf parse bound) (wholeOf parse' bound') c := by
  refine inner.bind below fun _ => .peek ?_
  split
  · exact .pure _
  · exact Settles.fail (by simp) _

theorem onSupply_settles {p q : Parser α} {supply : Supply}
    (settles : ∀ c, Cursor.start supply = .ok c → Settles p q c) :
    p.onSupply supply = q.onSupply supply ∧
      ∀ position, p.onSupply supply ≠ .error (.error ⟨.nestedTooDeeply, position⟩) := by
  cases started : Cursor.start supply with
  | error failure =>
    obtain ⟨fault, rfl⟩ := fault_of_draw started
    simp [onSupply, started, bind, Except.bind]
  | ok c =>
    obtain ⟨same, ends⟩ := settles c started
    simp only [onSupply, started, bind, Except.bind, ← same]
    refine ⟨trivial, fun position stopped => ?_⟩
    cases ran : p.run c with
    | error failure =>
      rw [ran] at stopped
      cases stopped
      exact ends position ran
    | ok result =>
      rw [ran] at stopped
      cases stopped

/-- Parsing a supply of `n` tokens gives the result without limits being reached. -/
structure NestsWithin (n bound : Nat) (supply : Supply)
    (entry : (Precedence → Parser Expr) → Nat → Parser α) (result : Except ParseFailure α) :
    Prop where
  /-- No expression is opened inside `n + 1` others: how it would be parsed does not matter. -/
  depth : ∀ beyond, (entry (nested beyond bound (n + 1)) bound).onSupply supply = result
  /-- Without limits the result is the same. -/
  unlimited : ∀ parse, Unlimited parse → (entry parse bound).onSupply supply = result
  ends : ∀ position, result ≠ .error (.error ⟨.nestedTooDeeply, position⟩)

theorem nestsWithin {entry : (Precedence → Parser Expr) → Nat → Parser α} {supply : Supply}
    (settles : ∀ {parse c}, InnerSettles (n + 1) (expression (loopBound supply) nesting) parse →
      c.Below (n + 1) → Settles (entry (expression (loopBound supply) nesting) (loopBound supply))
        (entry parse bound) c)
    (below : ∀ c, Cursor.start supply = .ok c → c.Below (n + 1)) (fits : n < nesting)
    (rounds : n < loopBound supply) (enough : n < bound) :
    NestsWithin n bound supply entry
      ((entry (expression (loopBound supply) nesting) (loopBound supply)).onSupply supply) := by
  have inSupply {parse} (inner : InnerSettles (n + 1) _ parse) :=
    onSupply_settles fun c started => settles inner (below c started)
  have nests (beyond) := inSupply
    ⟨expression_sound, fun below => nested_settles beyond below fits rounds enough _⟩
  have free {parse} (unlimited : Unlimited parse) := inSupply
    ⟨expression_sound, fun below => unlimited.settles below fits rounds _⟩
  exact ⟨fun beyond => (nests beyond).1.symm, fun _ unlimited => (free unlimited).1.symm,
    (free growing_unlimited).2⟩

end Parser

open PiecewiseLang.Parser

namespace Supply

theorem nestsWithin {supply : Supply} (listed : supply.toList = .ok tokens)
    (fits : countInside tokens < nesting) (enough : countInside tokens < bound) :
    NestsWithin (countInside tokens) bound supply programOf (parseTokens nesting supply) ∧
      NestsWithin (countInside tokens) bound supply wholeOf (parseOne nesting supply) := by
  have below (c : Cursor) (started : Cursor.start supply = .ok c) :
      c.Below (countInside tokens + 1) := below_of_take started listed (Nat.le_refl _)
  have few : countInside tokens ≤ supply.size :=
    Nat.le_trans (List.takeWhile_sublist _).length_le (length_of_take listed)
  have rounds : countInside tokens < loopBound supply := by
    rw [loopBound]
    omega
  constructor
  · rw [parseTokens_eq]
    exact Parser.nestsWithin (fun inner below => programOf_settles inner below rounds enough)
      below fits rounds enough
  · exact Parser.nestsWithin (fun inner below => wholeOf_settles inner below) below fits rounds
      enough

end Supply

/-- Parsing nests no more deeply than its input is long. Every round of a loop fails, leaves the
loop or passes a token. A list of tokens is parsed with one more expression open inside one
another than there are tokens before the end of input, at most; the result is that of a parser
without limits, whatever limits above the number of tokens there are; and it is never that the
nesting is too deep. The same holds of texts and their tokens. -/
theorem parsing_nests_within_input :
    (∀ bound nesting, let deeper := expression bound nesting
      IsLoop (statements bound nesting) (statementRound (statement bound nesting)) [] ∧
      (∀ function, IsLoop (parameters function · []) (parameterRound function) []) ∧
      (∀ precedence left, IsLoop (climb deeper bound precedence · left)
        (climbRound deeper bound precedence) left) ∧
      IsLoop (arguments deeper) (argumentRound deeper) [] ∧
      IsLoop (members deeper) (memberRound deeper) [] ∧
      ∀ value, IsLoop (arms deeper · false value) (armRound deeper) ⟨[], false, value⟩) ∧
    (∃ parse, Unlimited parse) ∧
    (∀ tokens nesting bound, countInside tokens < nesting → countInside tokens < bound →
      NestsWithin (countInside tokens) bound (.listed tokens) programOf
        (parseTokens nesting (.listed tokens)) ∧
      NestsWithin (countInside tokens) bound (.listed tokens) wholeOf
        (parseOne nesting (.listed tokens))) ∧
    ∀ source tokens, tokenize source = .ok tokens →
      ∀ nesting bound, countInside tokens < nesting → countInside tokens < bound →
        NestsWithin (countInside tokens) bound (.ofSource source) programOf
          (parseProgram nesting source) ∧
        NestsWithin (countInside tokens) bound (.ofSource source) wholeOf
          (parseExpr nesting source) := by
  refine ⟨fun bound nesting => ⟨statements_isLoop bound nesting, parameters_isLoop,
    climb_isLoop expression_sound bound, arguments_isLoop expression_sound,
    members_isLoop expression_sound, arms_isLoop expression_sound⟩,
    ⟨growing, growing_unlimited⟩, ?_, ?_⟩
  · intro tokens nesting bound fits enough
    exact Supply.nestsWithin (Supply.toList_listed tokens) fits enough
  · intro source tokens scanned nesting bound fits enough
    rw [parseExpr_eq]
    exact Supply.nestsWithin scanned fits enough

/-- The arguments of a call, cut off after two more parentheses. -/
def cutSample : List Token :=
  [⟨.name, "f", 0⟩, ⟨.leftParen, "(", 1⟩, ⟨.integer, "1", 2⟩, ⟨.comma, ",", 3⟩,
    ⟨.leftParen, "(", 5⟩, ⟨.leftParen, "(", 6⟩, ⟨.endOfInput, "", 7⟩]

/-- An illegal token between misplaced words, and no end of input. -/
def misplacedSample : List Token := [⟨.letWord, "let", 0⟩, ⟨.illegal, "$", 4⟩, ⟨.ifWord, "if", 6⟩]

theorem parsing_nests_within_input_sample :
    parseExpr 7 "f(1, ((" = .error (.error ⟨.noExpression ⟨.endOfInput, "", 7⟩, some 7⟩) ∧
    NestsWithin 6 7 (.ofSource "f(1, ((") wholeOf (parseExpr 7 "f(1, ((") ∧
    NestsWithin 3 4 (.listed misplacedSample) programOf
      (parseTokens 4 (.listed misplacedSample)) := by
  obtain ⟨-, -, lists, texts⟩ := parsing_nests_within_input
  have scanned : tokenize "f(1, ((" = .ok cutSample := by decide +kernel
  exact ⟨by decide +kernel, (texts _ cutSample scanned 7 7 (by decide) (by decide)).2,
    (lists misplacedSample 4 4 (by decide) (by decide)).1⟩

end PiecewiseLang
