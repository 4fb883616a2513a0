import PiecewiseLang.Proofs.Evaluation.Keeping

/-! Raising the limit on the depth of calls. The limit is looked at in one place, before the
scope of a call is opened. A computation that it does not cut off goes on in the same way under
any higher limit, so the two differ only where the lower limit ended the first. Then the error
names the limit, or, where that has too many digits, there is a fault in place of the error. -/
namespace PiecewiseLang

/-- How a call that is too deep under a limit fails. -/
def EvalFailure.Refusal (callDepth : Int) (f : EvalFailure) : Prop :=
  ∃ function, (Evaluation.refuse callDepth function).result = .error f

open PiecewiseLang.EvalFailure (Refusal)

namespace Traced

variable {α β : Type} {callDepth : Int}

/-- The computation was ended by the limit on the depth of calls. -/
def CutOff (callDepth : Int) (x : Traced α) : Prop :=
  ∃ f, Refusal callDepth f ∧ x.result = .error f

/-- The order of computations under a limit and higher ones: one that was cut off may turn out
as any other, and all others stay what they are. -/
def Below (callDepth : Int) (x y : Traced α) : Prop := x.CutOff callDepth ∨ x = y

namespace Below

theorem refl (x : Traced α) : Below callDepth x x := .inr rfl

theorem bind {x y : Traced α} {next next' : α → Traced β} (first : Below callDepth x y)
    (rest : ∀ a, Below callDepth (next a) (next' a)) :
    Below callDepth (x >>= next) (y >>= next') := by
  rcases first with ⟨f, refusal, ended⟩ | rfl
  · refine .inl ⟨f, refusal, ?_⟩
    rw [result_bind, ended]
    rfl
  · obtain ⟨calls, result⟩ := x
    cases result with
    | error f => exact .inr rfl
    | ok a =>
      rcases rest a with cut | same
      · exact .inl cut
      · refine .inr ?_
        show Traced.bind _ _ = Traced.bind _ _
        simp only [Traced.bind, same]

end Below

end Traced

open PiecewiseLang.Traced (Below)

namespace Evaluation

section
variable {inner inner' : Expr → Traced Value} {callDepth : Int}
  (given : ∀ e, Below callDepth (inner e) (inner' e))

include given

theorem all_below (es : List Expr) : Below callDepth (all inner es) (all inner' es) := by
  induction es with
  | nil => exact .refl _
  | cons e es ih => exact (given e).bind fun _ => ih.bind fun _ => .refl _

theorem collect_below (c : Collection) (es : List Expr) :
    Below callDepth (collect inner c es) (collect inner' c es) := by
  induction es generalizing c with
  | nil => exact .refl _
  | cons e es ih => exact (given e).bind fun _ => (Below.refl _).bind fun c => ih c

theorem arms_below (pieces : List (Expr × Expr)) :
    Below callDepth (arms inner pieces) (arms inner' pieces) := by
  induction pieces with
  | nil => exact .refl _
  | cons piece pieces ih =>
    obtain ⟨value, guard⟩ := piece
    refine (given guard).bind fun condition => ?_
    split
    · exact given value
    · exact ih
    · exact .refl _

theorem cast_below (value domain : Expr) :
    Below callDepth (cast inner value domain) (cast inner' value domain) := by
  unfold cast
  split
  · exact (given value).bind fun _ => .refl _
  · exact .refl _

theorem combination_below (operator : Operator) (left right : Option Expr) :
    Below callDepth (combination inner operator left right)
      (combination inner' operator left right) := by
  unfold combination
  split
  · split
    · exact (given _).bind fun _ => .refl _
    · exact .refl _
  · split
    · exact (given _).bind fun _ => .refl _
    · exact .refl _
  · split
    · exact cast_below given _ _
    · split
      · exact (given _).bind fun _ => (given _).bind fun _ => .refl _
      · exact .refl _
  · exact .refl _

theorem callBuiltin_below (function : Builtin) (arguments : List Expr) :
    Below callDepth (callBuiltin inner function arguments)
      (callBuiltin inner' function arguments) := by
  refine (Below.refl _).bind fun _ => (all_below given arguments).bind fun values => ?_
  split
  · exact .refl _
  · exact .refl _

end

section
variable {evaluate evaluate' : Environment → Expr → Traced Value} {callDepth callDepth' : Int}
  (raised : callDepth ≤ callDepth')
  (given : ∀ env e, Below callDepth (evaluate env e) (evaluate' env e))

include raised given

/-- A call that the lower limit allows, the higher one allows too. -/
theorem callFunction_below (env : Environment) (function : String) (parameters : List String)
    (body : Expr) (arguments : List Expr) :
    Below callDepth (callFunction evaluate callDepth env function parameters body arguments)
      (callFunction evaluate' callDepth' env function parameters body arguments) := by
  refine (Below.refl _).bind fun _ => (all_below (given env) arguments).bind fun values => ?_
  by_cases deep : callDepth ≤ env.depth
  · rw [if_pos deep]
    -- Whatever a refused call comes to, it is a failure.
    obtain ⟨-, refused⟩ | ⟨-, refused⟩ := refuse_cases callDepth function
    · exact .inl ⟨_, ⟨function, by rw [refused]; rfl⟩, by rw [refused]; rfl⟩
    · exact .inl ⟨_, ⟨function, by rw [refused]; rfl⟩, by rw [refused]; rfl⟩
  · have allowed : ¬callDepth' ≤ env.depth := by omega
    rw [if_neg deep, if_neg allowed]
    exact (Below.refl _).bind fun scope => (Below.refl _).bind fun _ => given scope body

theorem step_below (env : Environment) (e : Expr) :
    Below callDepth (step evaluate callDepth env e) (step evaluate' callDepth' env e) := by
  have inner := given env
  cases e with
  | integer | real | boolean | undefined | name => exact .refl _
  | combination operator left right => exact combination_below inner operator left right
  | call callee arguments =>
    refine (inner callee).bind fun function => ?_
    split
    · exact callBuiltin_below inner _ arguments
    · exact callFunction_below raised given env _ _ _ arguments
    · exact .refl _
  | piecewise pieces => exact arms_below inner pieces
  | magnitude operand => exact (inner operand).bind fun _ => .refl _
  | set members => exact (collect_below inner .empty members).bind fun _ => .refl _

end

end Evaluation

theorem evaluateWithin_below (raised : callDepth ≤ callDepth') (nesting : Nat)
    (env : Environment) (e : Expr) :
    Below callDepth (evaluateWithin callDepth nesting env e)
      (evaluateWithin callDepth' nesting env e) := by
  induction nesting generalizing env e with
  | zero => exact .refl _
  | succ nesting ih => exact Evaluation.step_below raised ih env e

namespace Statement

variable {callDepth callDepth' : Int} (raised : callDepth ≤ callDepth') (nesting rendering : Nat)

include raised

theorem execute_below (env : Environment) (s : Statement) :
    Below callDepth (s.execute ⟨callDepth, nesting, rendering⟩ env)
      (s.execute ⟨callDepth', nesting, rendering⟩ env) := by
  have evaluated := evaluateWithin_below raised nesting env
  cases s with
  | assignment name e => exact (evaluated e).bind fun _ => .refl _
  | declaration name parameters body => exact .refl _
  | expression e => exact (evaluated e).bind fun _ => .refl _

/-- Statements that no call depth stops are carried out alike. -/
theorem executeAll_raised (env : Environment) (program : List Statement)
    (uncut : ∀ f, Refusal callDepth f →
      (executeAll ⟨callDepth, nesting, rendering⟩ env program).failure ≠ some f) :
    executeAll ⟨callDepth', nesting, rendering⟩ env program =
      executeAll ⟨callDepth, nesting, rendering⟩ env program := by
  induction program generalizing env with
  | nil => rfl
  | cons s program ih =>
    simp only [executeAll] at uncut ⊢
    rcases execute_below raised nesting rendering env s with ⟨f, refusal, ended⟩ | same
    · rw [ended] at uncut
      exact absurd rfl (uncut f refusal)
    · rw [← same]
      cases ran : (s.execute ⟨callDepth, nesting, rendering⟩ env).result with
      | error f => rfl
      | ok outcome =>
        simp only [ran] at uncut ⊢
        cases lines : s.display rendering outcome.1 with
        | error fault => rfl
        | ok lines =>
          simp only [lines] at uncut ⊢
          rw [ih outcome.2 uncut]

end Statement

/-- Raising the limit on the depth of calls changes nothing for a program that did not fail by
it: the lines, the bindings, the log and the way it ends are all the same. A limit of more digits
than an integer may have as text makes its mark also where the error could not name it. -/
theorem raised_limit_keeps_outcome (raised : callDepth ≤ callDepth') (nesting rendering : Nat)
    (env : Environment) (source : String)
    (uncut : ∀ limit function, (execute ⟨callDepth, nesting, rendering⟩ env source).ending ≠
      .evalError (.callDepth limit function))
    (named : callDepth.natAbs < 10 ^ Text.digitLimit ∨
      (execute ⟨callDepth, nesting, rendering⟩ env source).ending ≠ .fault .overlongLimit) :
    execute ⟨callDepth', nesting, rendering⟩ env source =
      execute ⟨callDepth, nesting, rendering⟩ env source := by
  simp only [execute] at uncut named ⊢
  cases parsed : parseProgram nesting source with
  | error failure => rfl
  | ok program =>
    simp only [parsed] at uncut named ⊢
    rw [Statement.executeAll_raised raised nesting rendering env program]
    rintro f ⟨function, refusal⟩ failed
    obtain ⟨-, refused⟩ | ⟨long, refused⟩ := Evaluation.refuse_cases callDepth function
    · rw [refused] at refusal
      cases refusal
      apply uncut callDepth function
      simp only [Outcome.ofProgress, failed]
    · rw [refused] at refusal
      cases refusal
      refine named.elim (fun short => Nat.not_lt.mpr long short) fun other => other ?_
      simp only [Outcome.ofProgress, failed]

/-- Counts down from two with three calls inside one another, and then fails at a name. -/
def countdownSample : String := "fn f(n) = \x7b0 if n == 0; f(n - 1) else;\x7d; f(2); g;"

theorem raised_limit_keeps_outcome_sample :
    (execute ⟨3, 20, 20⟩ .empty countdownSample).ending = .evalError (.unboundName "g") ∧
    (execute ⟨2, 20, 20⟩ .empty countdownSample).ending = .evalError (.callDepth 2 "f") ∧
    execute ⟨1000000, 20, 20⟩ .empty countdownSample =
      execute ⟨3, 20, 20⟩ .empty countdownSample := by
  have ended : (execute ⟨3, 20, 20⟩ .empty countdownSample).ending =
      .evalError (.unboundName "g") := by decide +kernel
  refine ⟨ended, by decide +kernel,
    raised_limit_keeps_outcome (by decide) 20 20 .empty _ ?_ (.inr ?_)⟩
  · intro limit function same
    cases ended.symm.trans same
  · intro same
    cases ended.symm.trans same

/-- A limit of 4301 digits, below zero. -/
def farBelowZero : Int := -((Nat.pow 10 Text.digitLimit : Nat) : Int)

/-- Under a limit that cannot be written, a call does not fail by the limit's error, and yet a
higher limit lets it be made. -/
theorem unwritable_limit_changes_outcome :
    farBelowZero ≤ 128 ∧
    (execute (.ofCallDepth farBelowZero) .initial "fn f(x) = x; f(1);").ending =
      .fault .overlongLimit ∧
    (execute (.ofCallDepth 128) .initial "fn f(x) = x; f(1);").ending = .finished ∧
    (execute (.ofCallDepth 128) .initial "fn f(x) = x; f(1);").lines = ["1"] := by
  refine ⟨?_, ?_, ?_, ?_⟩ <;> decide +kernel

end PiecewiseLang
