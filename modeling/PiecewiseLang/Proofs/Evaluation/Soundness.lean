import PiecewiseLang.Proofs.Evaluation.Keeping
import PiecewiseLang.Proofs.Parsing.RoundTrip
import PiecewiseLang.Proofs.Value.Display

/-! Soundness of evaluation for programs that were parsed. Every function such programs bind
has distinct parameters and a well-formed body, and calls bring no other functions about.
Hence evaluation meets no tree that it has no rule for, no table without the entry it needs
and no call whose parameters do not pair off with the arguments. -/
namespace PiecewiseLang

/-- Failures that say something about the structure of a program or about a table, and not
about the values it computes with. -/
def EvalFailure.isStructural : EvalFailure → Bool
  | .error (.illegalOperator _) | .error (.notAnExpression _) | .error (.notAStatement _) => true
  | .fault .missingEntry | .fault .unevenCall => true
  | _ => false

/-- Whether a name was to be bound a second time in one scope. -/
def EvalFailure.isRebinding : EvalFailure → Bool
  | .error (.boundAlready _) => true
  | _ => false

/-- The failures that evaluation is left with when trees and values are as they should be. -/
def EvalFailure.Ordinary (f : EvalFailure) : Prop := f.isStructural = false ∧ f.isRebinding = false

open PiecewiseLang.EvalFailure (Ordinary Operational)

/-- What keeps a value from being written is no matter of structure. -/
theorem Value.Obstructed.notStructural (obstructed : Value.Obstructed rendering v fault) :
    EvalFailure.isStructural (.fault fault) = false := by
  induction obstructed with
  | deep | long | body => rfl
  | member _ _ ih => exact ih

/-- Operations fail in the ordinary ways as long as their tables have all entries. -/
theorem Fails.ordinary {x : Except EvalFailure α} (given : Fails (Operational unranked) x)
    (ranked : ¬unranked) : Fails Ordinary x := by
  intro f failed
  have holds := given f failed
  match f with
  | .fault .missingEntry => exact absurd holds ranked
  | .fault .overlongInteger | .fault .malformedNumeral | .fault .oversizedFactorial =>
    exact ⟨rfl, rfl⟩
  | .error e =>
    cases e with
    | illegalOperator | notAnExpression | notAStatement | boundAlready => cases holds
    | _ => exact ⟨rfl, rfl⟩

namespace Value

open Value (Closed)

theorem Closed.and (first : Closed V) (second : Closed W) : Closed fun v => V v ∧ W v where
  integer n := ⟨first.integer n, second.integer n⟩
  real x plain := ⟨first.real x plain, second.real x plain⟩
  boolean b := ⟨first.boolean b, second.boolean b⟩
  undefined := ⟨first.undefined, second.undefined⟩
  members holds m member := ⟨first.members holds.1 m member, second.members holds.2 m member⟩
  set members isSet := ⟨first.set (fun m member => (members m member).1) isSet,
    second.set (fun m member => (members m member).2) isSet⟩

/-- What a declaration that was parsed is known to have. -/
def Declarable (parameters : List String) (body : Expr) : Prop :=
  parameters.Nodup ∧ body.isWellFormed = true

/-- The values that programs compute with. -/
def Sound (v : Value) : Prop := v.Canonical ∧ v.Holds Declarable

theorem sound_closed : Closed Sound := canonical_closed.and (holds_closed Declarable)

theorem Sound.function (sound : Sound (.function parameters body)) :
    parameters.Nodup ∧ body.isWellFormed = true := by
  cases sound.2 with
  | function declarable => exact declarable

end Value

namespace Operator

variable {symbol : Symbol}

/-- A symbol that can be written between operands has an operation, or it is a cast. -/
theorem infixOperation_of_written (written : isWritten ⟨symbol, .infixed⟩ = true)
    (other : symbol ≠ .cast) : ∃ operation, symbol.infixOperation? = some operation := by
  cases symbol with
  | cast => exact absurd rfl other
  | call | not | factorial => cases written
  | _ => exact ⟨_, rfl⟩

theorem prefixOperation_of_written (written : isWritten ⟨symbol, .prefixed⟩ = true) :
    ∃ operation, symbol.prefixOperation? = some operation := by
  cases symbol with
  | sub | not => exact ⟨_, rfl⟩
  | _ => cases written

theorem postfixOperation_of_written (written : isWritten ⟨symbol, .postfixed⟩ = true) :
    ∃ operation, symbol.postfixOperation? = some operation := by
  cases symbol with
  | factorial => exact ⟨_, rfl⟩
  | _ => cases written

end Operator

theorem Environment.lookup_fails (env : Environment) (name : String) :
    Fails Ordinary (EvalFailure.ofExcept (env.lookup name)) := by
  unfold lookup
  split
  · exact .ok _
  · exact .error ⟨rfl, rfl⟩

/-- Distinct names that a scope does not bind yet can all be bound in it. -/
theorem Environment.declareAll_of_fresh {env : Environment} {bindings : Bindings}
    (distinct : (bindings.map Prod.fst).Nodup)
    (fresh : ∀ binding ∈ bindings, env.innermost.lookup binding.1 = none) :
    (env.declareAll bindings).2 = none := by
  induction bindings generalizing env with
  | nil => rfl
  | cons binding bindings ih =>
    obtain ⟨name, value⟩ := binding
    obtain ⟨absent, distinct⟩ := List.nodup_cons.mp distinct
    have unbound : env.innermost.lookup name = none := fresh _ (List.mem_cons_self ..)
    simp only [declareAll, declare, unbound]
    apply ih distinct
    intro other member
    have different : (other.1 == name) = false := by
      rw [beq_eq_false_iff_ne]
      intro same
      exact absent (List.mem_map.mpr ⟨other, member, same⟩)
    have before := fresh other (List.mem_cons_of_mem _ member)
    simp [List.lookup_append, List.lookup_cons, before, different]

namespace Evaluation

open Value (Canonical Sound)
open PiecewiseLang.Expr (isWellFormed operandWellFormed allWellFormed armsWellFormed)

section
variable {inner : Expr → Traced Value}
  (given : ∀ e, e.isWellFormed = true → Fails Ordinary (inner e).result)

include given

theorem all_fails {es : List Expr} (wellFormed : allWellFormed es = true) :
    Fails Ordinary (all inner es).result := by
  induction es with
  | nil => exact .ok _
  | cons e es ih =>
    simp only [allWellFormed, Bool.and_eq_true] at wellFormed
    simp only [all, Traced.result_bind]
    refine (given e wellFormed.1).bind fun _ _ => ?_
    exact (ih wellFormed.2).bind fun _ _ => .ok _

theorem collect_fails {es : List Expr} (wellFormed : allWellFormed es = true) (c : Collection) :
    Fails Ordinary (collect inner c es).result := by
  induction es generalizing c with
  | nil => exact .ok _
  | cons e es ih =>
    simp only [allWellFormed, Bool.and_eq_true] at wellFormed
    simp only [collect, Traced.result_bind, Traced.result_ofExcept]
    refine (given e wellFormed.1).bind fun _ _ => ?_
    exact ((Collection.add_fails _ _).operational.ordinary id).bind fun c _ => ih wellFormed.2 c

theorem arms_fails {pieces : List (Expr × Expr)} (wellFormed : armsWellFormed pieces = true) :
    Fails Ordinary (arms inner pieces).result := by
  induction pieces with
  | nil => exact .ok _
  | cons piece pieces ih =>
    obtain ⟨value, guard⟩ := piece
    simp only [armsWellFormed, Bool.and_eq_true] at wellFormed
    simp only [arms, Traced.result_bind]
    refine (given guard wellFormed.1.2).bind fun condition _ => ?_
    split
    · exact given value wellFormed.1.1
    · exact ih wellFormed.2
    · exact .error ⟨rfl, rfl⟩

theorem cast_fails {value : Expr} (wellFormed : value.isWellFormed = true) (domain : Expr) :
    Fails Ordinary (cast inner value domain).result := by
  unfold cast
  split
  · simp only [Traced.result_bind, Traced.result_ofExcept]
    exact (given value wellFormed).bind fun v _ => (Value.cast_fails v _).operational.ordinary id
  · exact .error ⟨rfl, rfl⟩

/-- A legal operator with the operands of its place has a rule. -/
theorem combination_fails (canonical : ∀ e, Gives Canonical (inner e).result)
    (wellFormed : (Expr.combination operator left right).isWellFormed = true) :
    Fails Ordinary (combination inner operator left right).result := by
  obtain ⟨symbol, fixity⟩ := operator
  simp only [isWellFormed, Bool.and_eq_true, decide_eq_true_eq] at wellFormed
  obtain ⟨⟨⟨written, operands⟩, leftFormed⟩, rightFormed⟩ := wellFormed
  cases fixity with
  | prefixed =>
    cases right with
    | none => cases left <;> cases operands
    | some operand =>
      obtain ⟨operation, found⟩ := Operator.prefixOperation_of_written written
      simp only [combination, found, Traced.result_bind, Traced.result_ofExcept]
      refine (given operand rightFormed).bind fun v _ => ?_
      exact (Symbol.prefixOperation_fails found v).operational.ordinary id
  | postfixed =>
    cases left with
    | none => cases right <;> cases operands
    | some operand =>
      obtain ⟨operation, found⟩ := Operator.postfixOperation_of_written written
      simp only [combination, found, Traced.result_bind, Traced.result_ofFailure]
      refine (given operand leftFormed).bind fun v _ => ?_
      exact (Symbol.postfixOperation_fails found v).ordinary id
  | infixed =>
    cases left with
    | none => cases right <;> cases operands
    | some left =>
      cases right with
      | none => cases operands
      | some right =>
        simp only [combination]
        split
        · exact cast_fails given leftFormed right
        case isFalse other =>
          obtain ⟨operation, found⟩ := Operator.infixOperation_of_written written other
          simp only [found, Traced.result_bind, Traced.result_ofFailure]
          refine (given left leftFormed).bind fun l first => ?_
          refine (given right rightFormed).bind fun r second => ?_
          refine (Symbol.infixOperation_fails found l r).ordinary fun lost => lost ?_
          exact ⟨canonical left l first, canonical right r second⟩

theorem callBuiltin_fails (function : Builtin) {arguments : List Expr}
    (wellFormed : allWellFormed arguments = true) :
    Fails Ordinary (callBuiltin inner function arguments).result := by
  simp only [callBuiltin, requireArity]
  split
  · simp only [Traced.result_bind, Traced.result_pure]
    refine (all_fails given wellFormed).bind fun values _ => ?_
    split
    · rw [Traced.result_ofExcept]
      exact (Builtin.apply_fails function _).operational.ordinary id
    · exact .error ⟨rfl, rfl⟩
  · exact .error ⟨rfl, rfl⟩

end

/-- As many values come out as expressions went in. -/
theorem all_length (inner : Expr → Traced Value) (es : List Expr) :
    Gives (fun values => values.length = es.length) (all inner es).result := by
  induction es with
  | nil => exact .ok rfl
  | cons e es ih =>
    simp only [all, Traced.result_bind]
    refine .after fun value => ih.bind fun values same => .ok ?_
    simp [same]

section
variable {evaluate : Environment → Expr → Traced Value} {env : Environment}

/-- Distinct parameters are bound in a new scope without fail. -/
theorem callScope_fails (distinct : parameters.Nodup) (pairs : values.length = parameters.length) :
    Fails F (callScope env parameters values).result := by
  have names : ((parameters.zip values).map Prod.fst).Nodup := by
    rwa [List.map_fst_zip (Nat.le_of_eq pairs.symm)]
  have declared : (env.child.declareAll (parameters.zip values)).2 = none :=
    Environment.declareAll_of_fresh names fun _ _ => rfl
  unfold callScope
  split
  case h_1 failed =>
    rw [failed] at declared
    cases declared
  case h_2 =>
    rw [if_pos pairs.symm]
    exact .ok _

/-- A well-formed expression fails in the ordinary ways only, where sound values are bound. -/
def Regular (evaluate : Environment → Expr → Traced Value) : Prop :=
  ∀ env : Environment, env.Binds Sound → ∀ e, e.isWellFormed = true →
    Fails Ordinary (evaluate env e).result

variable (keeps : Keeps Sound evaluate) (regular : Regular evaluate) (bound : env.Binds Sound)

include keeps regular bound

theorem callFunction_fails (function : String) (declarable : Value.Declarable parameters body)
    (wellFormed : allWellFormed arguments = true) :
    Fails Ordinary
      (callFunction evaluate callDepth env function parameters body arguments).result := by
  simp only [callFunction, requireArity]
  split
  case isTrue arity =>
    simp only [Traced.result_bind, Traced.result_pure]
    refine (all_fails (regular env bound) wellFormed).bind fun values evaluated => ?_
    have length := all_length _ arguments values evaluated
    have sound := all_keeps (keeps env bound) arguments values evaluated
    split
    · obtain ⟨-, refused⟩ | ⟨-, refused⟩ := refuse_cases callDepth function <;>
        exact refused ▸ .error ⟨rfl, rfl⟩
    · simp only [Traced.result_bind, Traced.result_call]
      refine (callScope_fails declarable.1 (length.trans arity)).bind fun scope opened => ?_
      exact regular scope (callScope_keeps bound parameters sound scope opened) body declarable.2
  case isFalse => exact .error ⟨rfl, rfl⟩

theorem call_fails (wellFormed : (Expr.call callee arguments).isWellFormed = true) :
    Fails Ordinary (call evaluate callDepth env callee arguments).result := by
  simp only [isWellFormed, Bool.and_eq_true] at wellFormed
  simp only [call, Traced.result_bind]
  refine (regular env bound callee wellFormed.1).bind fun function evaluated => ?_
  split
  · exact callBuiltin_fails (regular env bound) _ wellFormed.2
  case h_2 parameters body =>
    have sound := keeps env bound callee _ evaluated
    exact callFunction_fails keeps regular bound _ sound.function wellFormed.2
  · exact .error ⟨rfl, rfl⟩

end

theorem step_regular (keeps : Keeps Sound evaluate) (regular : Regular evaluate) :
    Regular fun env e => step evaluate callDepth env e := by
  intro env bound e wellFormed
  have inner := regular env bound
  have canonical : ∀ e, Gives Canonical (evaluate env e).result := fun e v evaluated =>
    (keeps env bound e v evaluated).1
  cases e with
  | integer n => exact .ok _
  | real x => exact .ok _
  | boolean b => exact .ok _
  | undefined => exact .ok _
  | name n =>
    simp only [step, Traced.result_ofExcept]
    exact env.lookup_fails n
  | combination operator left right => exact combination_fails inner canonical wellFormed
  | call callee arguments => exact call_fails keeps regular bound wellFormed
  | piecewise pieces =>
    simp only [isWellFormed, Bool.and_eq_true] at wellFormed
    exact arms_fails inner wellFormed.2
  | magnitude operand =>
    rw [isWellFormed] at wellFormed
    simp only [step, Traced.result_bind, Traced.result_ofExcept]
    exact (inner operand wellFormed).bind fun v _ => (Value.magnitude_fails v).operational.ordinary id
  | set members =>
    rw [isWellFormed] at wellFormed
    simp only [step, Traced.result_bind, Traced.result_ofFailure]
    refine (collect_fails inner wellFormed .empty).bind fun c collected => ?_
    refine (Collection.toValue_fails c).ordinary fun lost => lost ?_
    exact collect_keeps canonical Collection.empty_keeps members c collected

end Evaluation

theorem evaluateWithin_regular (callDepth : Int) (nesting : Nat) :
    Evaluation.Regular (evaluateWithin callDepth nesting) := by
  induction nesting with
  | zero => exact fun _ _ _ _ => .error ⟨rfl, rfl⟩
  | succ nesting ih =>
    exact Evaluation.step_regular (evaluateWithin_keeps Value.sound_closed callDepth nesting) ih

namespace Statement

/-- The expression a statement evaluates, if it evaluates one. -/
def evaluated? : Statement → Option Expr
  | .assignment _ e | .expression e => some e
  | .declaration .. => none

theorem declares_sound {s : Statement} (wellFormed : s.isWellFormed = true) :
    s.Declares Value.Sound := by
  cases s with
  | declaration name parameters body =>
    simp only [isWellFormed, Bool.and_eq_true, decide_eq_true_eq] at wellFormed
    exact ⟨.function, .function ⟨wellFormed.1.2, wellFormed.2⟩⟩
  | assignment name e => trivial
  | expression e => trivial

theorem evaluated_wellFormed {s : Statement} (wellFormed : s.isWellFormed = true)
    (evaluated : s.evaluated? = some e) : e.isWellFormed = true := by
  cases s with
  | assignment name e =>
    cases evaluated
    simp only [isWellFormed, Bool.and_eq_true] at wellFormed
    exact wellFormed.2
  | expression e =>
    cases evaluated
    exact wellFormed
  | declaration name parameters body => cases evaluated

variable {env : Environment}

theorem execute_fails (bound : env.Binds Value.Sound) (limits : Limits) {s : Statement}
    (wellFormed : s.isWellFormed = true) :
    Fails (fun f => f.isStructural = false) (s.execute limits env).result := by
  have declared : ∀ name value, Fails (fun f : EvalFailure => f.isStructural = false)
      (EvalFailure.ofExcept (env.declare name value)) := by
    intro name value
    unfold Environment.declare
    split
    · exact .error rfl
    · exact .ok _
  have evaluated : ∀ e, s.evaluated? = some e →
      Fails (fun f => f.isStructural = false) (e.evaluate limits env).result :=
    fun e found f failed =>
      (evaluateWithin_regular _ _ env bound e (evaluated_wellFormed wellFormed found) f failed).1
  cases s with
  | assignment name e =>
    simp only [execute, Traced.result_bind, Traced.result_ofExcept]
    exact (evaluated e rfl).bind fun v _ => (declared name v).bind fun _ _ => .ok _
  | declaration name parameters body =>
    simp only [execute, Traced.result_bind, Traced.result_ofExcept]
    exact (declared name _).bind fun _ _ => .ok _
  | expression e =>
    simp only [execute, Traced.result_bind]
    exact (evaluated e rfl).bind fun _ _ => .ok _

theorem executeAll_fails (bound : env.Binds Value.Sound) (limits : Limits)
    {program : List Statement} (wellFormed : ∀ s ∈ program, s.isWellFormed = true) :
    ∀ f ∈ (executeAll limits env program).failure, f.isStructural = false := by
  induction program generalizing env with
  | nil => nofun
  | cons s program ih =>
    have first := wellFormed s (List.mem_cons_self ..)
    simp only [executeAll]
    split
    case h_1 failure failed =>
      rintro f ⟨⟩
      exact execute_fails bound limits first failure failed
    case h_2 value next ran =>
      split
      case h_1 fault missing =>
        obtain ⟨e, -, missing⟩ := display_eq_error.mp missing
        rintro f ⟨⟩
        exact (Value.displayWithin_eq_error.mp missing).notStructural
      · have binds := execute_keeps Value.sound_closed bound limits s (declares_sound first) _ ran
        exact ih binds fun s member => wellFormed s (List.mem_cons_of_mem _ member)

end Statement

/-- The failure of evaluation that a program ended with. -/
def Ending.failure? : Ending → Option EvalFailure
  | .evalError e => some (.error e)
  | .fault f => some (.fault f)
  | .finished | .parseError _ => none

theorem Outcome.failure_ofProgress (count : Nat) (p : Progress) :
    (Outcome.ofProgress count p).ending.failure? = p.failure := by
  obtain ⟨lines, env, log, failure⟩ := p
  match failure with
  | none => rfl
  | some (.error _) => rfl
  | some (.fault _) => rfl

theorem Environment.after_sound (runs : List (Limits × String)) :
    (Environment.initial.after runs).Binds Value.Sound := by
  apply after_binds Value.sound_closed (initial_binds Value.sound_closed ?_)
  · intro nesting source program parsed s member
    exact Statement.declares_sound (wellFormed_of_parseProgram parsed s member)
  · exact fun _ => ⟨.builtin, .builtin⟩

/-- Whatever was run before, a program that was parsed ends without a structural failure, and
the expressions it evaluates fail without one and without binding a parameter twice. -/
theorem parsed_programs_evaluate_soundly (parsed : parseProgram limits.nesting source = .ok program)
    (runs : List (Limits × String)) :
    (∀ f ∈ (execute limits (Environment.initial.after runs) source).ending.failure?,
      f.isStructural = false) ∧
    ∀ before s after e, program = before ++ s :: after → s.evaluated? = some e →
      ∀ f, (e.evaluate limits (Statement.executeAll limits (Environment.initial.after runs)
        before).environment).result = .error f → f.isStructural = false ∧ f.isRebinding = false := by
  have bound := Environment.after_sound runs
  have wellFormed := wellFormed_of_parseProgram parsed
  constructor
  · have fails := Statement.executeAll_fails bound limits wellFormed
    rw [execute, parsed]
    intro f ended
    exact fails f (by rwa [Outcome.failure_ofProgress] at ended)
  · intro before s after e split evaluated
    have inside : ∀ t ∈ before ++ s :: after, t.isWellFormed = true := split ▸ wellFormed
    have formed := Statement.evaluated_wellFormed (inside s (by simp)) evaluated
    have binds := Statement.executeAll_binds Value.sound_closed bound limits
      fun t member => Statement.declares_sound (inside t (List.mem_append_left _ member))
    exact evaluateWithin_regular _ _ _ binds e formed

/-- Declares a function that calls the one it is given twice, and fails to call it. -/
def twiceSample : List (Limits × String) := [(⟨1, 20, 20⟩, "fn twice(g, x) = g(g(x)); twice(1);")]

/-- Hands a function to another one, which calls it deeper than is allowed. -/
def wrapSample : String := "fn wrap(s) = twice(wrap, \x7bs\x7d); wrap(1);"

theorem parsed_programs_evaluate_soundly_sample :
    (execute ⟨2, 20, 20⟩ (Environment.initial.after twiceSample) wrapSample).ending.failure? =
      some (.error (.callDepth 2 "g")) ∧
    EvalFailure.isStructural (.error (.callDepth 2 "g")) = false ∧
    EvalFailure.isRebinding (.error (.callDepth 2 "g")) = false := by
  have parsed : parseProgram (Limits.nesting ⟨2, 20, 20⟩) wrapSample = .ok
      [.declaration "wrap" ["s"] (.call (.name "twice") [.name "wrap", .set [.name "s"]]),
        .expression (.call (.name "wrap") [.integer 1])] := by decide +kernel
  have ended : (execute ⟨2, 20, 20⟩ (Environment.initial.after twiceSample)
      wrapSample).ending.failure? = some (.error (.callDepth 2 "g")) := by decide +kernel
  obtain ⟨ends, fails⟩ := parsed_programs_evaluate_soundly parsed twiceSample
  have evaluated := fails [_] _ [] _ rfl rfl (.error (.callDepth 2 "g")) (by decide +kernel)
  exact ⟨ended, ends _ ended, evaluated.2⟩

end PiecewiseLang
