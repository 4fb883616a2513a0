import PiecewiseLang.Proofs.Text.Numeral
import PiecewiseLang.Proofs.Value.Canonical
import PiecewiseLang.Session

/-! What evaluation keeps. If all values that an environment binds have a property that the
operations on values keep, then so has every value an expression evaluates to in it, and so
have all values bound after any number of programs. Functions are the one kind of value that
evaluation does not make: the property has to hold of those that programs declare. -/
namespace PiecewiseLang

open Value (Closed)

namespace Traced

variable {α β : Type}

@[simp] theorem result_pure (a : α) : (Pure.pure a : Traced α).result = .ok a := rfl

@[simp] theorem result_bind (x : Traced α) (next : α → Traced β) :
    (x >>= next).result = x.result >>= fun a => (next a).result := by
  obtain ⟨calls, result⟩ := x
  cases result <;> rfl

@[simp] theorem result_fail (e : EvalError) : (fail e : Traced α).result = .error (.error e) := rfl

@[simp] theorem result_ofFailure (x : Except EvalFailure α) : (ofFailure x).result = x := rfl

@[simp] theorem result_ofExcept (x : Except EvalError α) :
    (ofExcept x).result = EvalFailure.ofExcept x := by
  cases x <;> rfl

@[simp] theorem result_call (record : CallRecord) : (call record).result = .ok () := rfl

end Traced

variable {V : Value → Prop} {env : Environment}

namespace Environment

/-- Every value bound in the environment, shadowed or not, has a property. -/
def Binds (V : Value → Prop) (env : Environment) : Prop :=
  ∀ scope ∈ env.scopes, ∀ binding ∈ scope, V binding.2

theorem lookup_keeps (bound : env.Binds V) (name : String) : Gives V (env.lookup name) := by
  intro v found
  unfold lookup at found
  split at found
  case h_1 got =>
    cases found
    obtain ⟨scope, member, inScope⟩ := List.exists_of_findSome?_eq_some got
    obtain ⟨before, after, same, -⟩ := List.lookup_eq_some_iff.mp inScope
    exact bound scope member (name, v) (by simp [same])
  case h_2 => cases found

theorem child_binds (bound : env.Binds V) : env.child.Binds V := by
  intro scope member
  rcases List.mem_cons.mp member with rfl | member
  · nofun
  · exact bound scope member

theorem declare_keeps (bound : env.Binds V) (name : String) (holds : V value) :
    Gives (Binds V) (env.declare name value) := by
  intro next declared
  unfold declare at declared
  split at declared
  · cases declared
  · cases declared
    intro scope member binding inScope
    rcases List.mem_cons.mp member with rfl | member
    · rcases List.mem_append.mp inScope with old | new
      · exact bound env.innermost (List.mem_cons_self ..) binding old
      · cases List.mem_singleton.mp new
        exact holds
    · exact bound scope (List.mem_cons_of_mem _ member) binding inScope

theorem declareAll_binds (bound : env.Binds V) {bindings : Bindings}
    (all : ∀ binding ∈ bindings, V binding.2) : (env.declareAll bindings).1.Binds V := by
  induction bindings generalizing env with
  | nil => exact bound
  | cons binding bindings ih =>
    rw [declareAll]
    split
    case h_1 next declared =>
      have first := declare_keeps bound binding.1 (all binding (List.mem_cons_self ..))
      exact ih (first next declared) fun b member => all b (List.mem_cons_of_mem _ member)
    case h_2 => exact bound

end Environment

namespace Evaluation

section
variable {inner : Expr → Traced Value}

theorem all_keeps (given : ∀ e, Gives V (inner e).result) (es : List Expr) :
    Gives (fun values => ∀ v ∈ values, V v) (all inner es).result := by
  induction es with
  | nil => exact .ok nofun
  | cons e es ih =>
    simp only [all, Traced.result_bind]
    refine (given e).bind fun value holds => ih.bind fun values others => .ok ?_
    intro v member
    rcases List.mem_cons.mp member with rfl | member
    · exact holds
    · exact others v member

theorem collect_keeps (given : ∀ e, Gives V (inner e).result) {c : Collection}
    (kept : c.Keeps V) (es : List Expr) :
    Gives (Collection.Keeps V) (collect inner c es).result := by
  induction es generalizing c with
  | nil => exact .ok kept
  | cons e es ih =>
    simp only [collect, Traced.result_bind, Traced.result_ofExcept]
    refine (given e).bind fun value holds => ?_
    exact (Collection.add_keeps kept holds).ofExcept.bind fun c kept => ih kept

theorem arms_keeps (closed : Closed V) (given : ∀ e, Gives V (inner e).result)
    (pieces : List (Expr × Expr)) : Gives V (arms inner pieces).result := by
  induction pieces with
  | nil => exact .ok closed.undefined
  | cons piece pieces ih =>
    obtain ⟨value, guard⟩ := piece
    simp only [arms, Traced.result_bind]
    refine .after fun condition => ?_
    split
    · exact given value
    · exact ih
    · exact .error _

theorem cast_keeps (closed : Closed V) (given : ∀ e, Gives V (inner e).result)
    (value domain : Expr) : Gives V (cast inner value domain).result := by
  unfold cast
  split
  · simp only [Traced.result_bind, Traced.result_ofExcept]
    exact (given value).bind fun v holds => (closed.cast holds _).ofExcept
  · exact .error _

theorem combination_keeps (closed : Closed V) (given : ∀ e, Gives V (inner e).result)
    (operator : Operator) (left right : Option Expr) :
    Gives V (combination inner operator left right).result := by
  unfold combination
  split
  · split
    case h_1 found =>
      simp only [Traced.result_bind, Traced.result_ofExcept]
      exact .after fun v => (closed.prefixOperation found v).ofExcept
    case h_2 => exact .error _
  · split
    case h_1 found =>
      simp only [Traced.result_bind, Traced.result_ofFailure]
      exact .after fun v => closed.postfixOperation found v
    case h_2 => exact .error _
  case h_3 left right _ =>
    split
    · exact cast_keeps closed given left right
    · split
      case h_1 found =>
        simp only [Traced.result_bind, Traced.result_ofFailure]
        refine (given left).bind fun l first => (given right).bind fun r second => ?_
        exact closed.infixOperation found first second
      case h_2 => exact .error _
  · exact .error _

theorem callBuiltin_keeps (closed : Closed V) (given : ∀ e, Gives V (inner e).result)
    (function : Builtin) (arguments : List Expr) :
    Gives V (callBuiltin inner function arguments).result := by
  simp only [callBuiltin, Traced.result_bind]
  refine .after fun _ => (all_keeps given arguments).bind fun values holds => ?_
  split
  case h_1 argument =>
    rw [Traced.result_ofExcept]
    exact (closed.apply function (holds argument (List.mem_singleton_self _))).ofExcept
  case h_2 => exact .error _

end

/-- A call that is refused fails: with the error that names the limit, or for want of the text of
the limit. -/
theorem refuse_cases (callDepth : Int) (function : String) :
    callDepth.natAbs < 10 ^ Text.digitLimit ∧
        refuse callDepth function = Traced.fail (.callDepth callDepth function) ∨
      10 ^ Text.digitLimit ≤ callDepth.natAbs ∧
        refuse callDepth function = Traced.ofFailure (.error (.fault .overlongLimit)) := by
  unfold refuse
  cases written : Text.writeInteger callDepth with
  | none => exact .inr ⟨Text.writeInteger_eq_none.mp written, rfl⟩
  | some text =>
    refine .inl ⟨Nat.lt_of_not_le fun long => ?_, rfl⟩
    rw [Text.writeInteger_eq_none.mpr long] at written
    cases written

section
variable {evaluate : Environment → Expr → Traced Value}

/-- Every value an expression has in an environment that binds such values is one itself. -/
def Keeps (V : Value → Prop) (evaluate : Environment → Expr → Traced Value) : Prop :=
  ∀ env : Environment, env.Binds V → ∀ e, Gives V (evaluate env e).result

theorem callScope_keeps (bound : env.Binds V) (parameters : List String)
    (holds : ∀ v ∈ values, V v) :
    Gives (Environment.Binds V) (callScope env parameters values).result := by
  unfold callScope
  split
  · exact .error _
  case h_2 scope declared =>
    split
    · have all : ∀ binding ∈ parameters.zip values, V binding.2 := fun binding member =>
        holds binding.2 (List.of_mem_zip member).2
      have binds := Environment.declareAll_binds (Environment.child_binds bound) all
      rw [declared] at binds
      exact .ok binds
    · exact .error _

theorem callFunction_keeps (given : Keeps V evaluate) (bound : env.Binds V) (function : String)
    (parameters : List String) (body : Expr) (arguments : List Expr) :
    Gives V (callFunction evaluate callDepth env function parameters body arguments).result := by
  simp only [callFunction, Traced.result_bind]
  refine .after fun _ => (all_keeps (given env bound) arguments).bind fun values holds => ?_
  split
  · obtain ⟨-, refused⟩ | ⟨-, refused⟩ := refuse_cases callDepth function <;>
      exact refused ▸ .error _
  · simp only [Traced.result_bind]
    refine (callScope_keeps bound parameters holds).bind fun scope binds => .after fun _ => ?_
    exact given scope binds body

theorem step_keeps (closed : Closed V) (given : Keeps V evaluate) :
    Keeps V fun env e => step evaluate callDepth env e := by
  intro env bound e
  have inner := given env bound
  cases e with
  | integer n => exact .ok (closed.integer n)
  | real x => exact .ok (closed.ofDouble x)
  | boolean b => exact .ok (closed.boolean b)
  | undefined => exact .ok closed.undefined
  | name n =>
    simp only [step, Traced.result_ofExcept]
    exact (Environment.lookup_keeps bound n).ofExcept
  | combination operator left right => exact combination_keeps closed inner operator left right
  | call callee arguments =>
    simp only [step, call, Traced.result_bind]
    refine .after fun function => ?_
    split
    · exact callBuiltin_keeps closed inner _ arguments
    · exact callFunction_keeps given bound _ _ _ arguments
    · exact .error _
  | piecewise pieces => exact arms_keeps closed inner pieces
  | magnitude operand =>
    simp only [step, Traced.result_bind, Traced.result_ofExcept]
    exact .after fun v => (closed.magnitude v).ofExcept
  | set members =>
    simp only [step, Traced.result_bind, Traced.result_ofFailure]
    refine (collect_keeps inner Collection.empty_keeps members).bind fun c kept => ?_
    exact Collection.toValue_keeps closed kept

end

end Evaluation

theorem evaluateWithin_keeps (closed : Closed V) (callDepth : Int) (nesting : Nat) :
    Evaluation.Keeps V (evaluateWithin callDepth nesting) := by
  induction nesting with
  | zero => exact fun _ _ _ => .error _
  | succ nesting ih => exact Evaluation.step_keeps closed ih

namespace Statement

/-- What the statement declares, if it declares a function, has a property. -/
def Declares (V : Value → Prop) : Statement → Prop
  | .declaration _ parameters body => V (.function parameters body)
  | _ => True

/-- Only the value of an expression can be missing from what is shown. -/
theorem display_eq_error {s : Statement} : s.display rendering value = .error fault ↔
    ∃ e, s = .expression e ∧ value.displayWithin rendering = .error fault := by
  cases s with
  | expression e =>
    rw [display]
    cases value.displayWithin rendering <;> simp [Except.map]
  | _ => simp [display]

theorem execute_keeps (closed : Closed V) (bound : env.Binds V) (limits : Limits) (s : Statement)
    (declares : s.Declares V) :
    Gives (fun outcome => outcome.2.Binds V) (s.execute limits env).result := by
  have evaluated := evaluateWithin_keeps closed limits.callDepth limits.nesting env bound
  cases s with
  | assignment name e =>
    simp only [execute, Traced.result_bind, Traced.result_ofExcept]
    refine (evaluated e).bind fun v holds => ?_
    exact (Environment.declare_keeps bound name holds).ofExcept.bind fun next binds => .ok binds
  | declaration name parameters body =>
    simp only [execute, Traced.result_bind, Traced.result_ofExcept]
    exact (Environment.declare_keeps bound name declares).ofExcept.bind fun next binds => .ok binds
  | expression e =>
    simp only [execute, Traced.result_bind]
    exact .after fun _ => .ok bound

theorem executeAll_binds (closed : Closed V) (bound : env.Binds V) (limits : Limits)
    {program : List Statement} (declares : ∀ s ∈ program, s.Declares V) :
    (executeAll limits env program).environment.Binds V := by
  induction program generalizing env with
  | nil => exact bound
  | cons s program ih =>
    have first := execute_keeps closed bound limits s (declares s (List.mem_cons_self ..))
    simp only [executeAll]
    split
    · exact bound
    case h_2 value next ran =>
      have binds := first _ ran
      split
      · exact binds
      · exact ih binds fun s member => declares s (List.mem_cons_of_mem _ member)

end Statement

/-- The outcome of a program that was parsed leaves the environment its statements left. -/
theorem Outcome.environment_ofProgress (count : Nat) (p : Progress) :
    (Outcome.ofProgress count p).environment = p.environment := by
  unfold ofProgress
  split <;> rfl

theorem execute_binds (closed : Closed V) (bound : env.Binds V) (limits : Limits) (source : String)
    (declares : ∀ program, parseProgram limits.nesting source = .ok program →
      ∀ s ∈ program, s.Declares V) : (execute limits env source).environment.Binds V := by
  unfold execute
  split
  case h_1 failure _ => cases failure <;> exact bound
  case h_2 program parsed =>
    rw [Outcome.environment_ofProgress]
    exact Statement.executeAll_binds closed bound limits (declares program parsed)

/-- The environment after running texts one after the other, each under limits of its own. -/
def Environment.after (env : Environment) (runs : List (Limits × String)) : Environment :=
  runs.foldl (fun env run => (execute run.1 env run.2).environment) env

theorem Environment.after_binds (closed : Closed V) (bound : env.Binds V)
    (declares : ∀ nesting source program, parseProgram nesting source = .ok program →
      ∀ s ∈ program, s.Declares V) (runs : List (Limits × String)) : (env.after runs).Binds V := by
  induction runs generalizing env with
  | nil => exact bound
  | cons run runs ih => exact ih (execute_binds closed bound run.1 run.2 (declares _ _))

/-- The values a program starts with are plain: two reals and the functions of sets. -/
theorem Environment.initial_binds (closed : Closed V) (builtin : ∀ f, V (.builtin f)) :
    Environment.initial.Binds V := by
  have pi := closed.real .pi (by decide)
  have euler := closed.real .euler (by decide)
  intro scope member binding inScope
  obtain rfl : scope = initialBindings := List.mem_singleton.mp member
  simp only [initialBindings, List.mem_cons, List.not_mem_nil, or_false] at inScope
  rcases inScope with rfl | rfl | rfl | rfl | rfl | rfl
  · exact pi
  · exact euler
  all_goals exact builtin _

/-- Canonical values stay canonical: what is evaluated where only such values are bound is
canonical, and programs, whether they fail or not, bind nothing else. -/
theorem evaluation_keeps_canonical :
    Environment.initial.Binds Value.Canonical ∧
    (∀ env : Environment, env.Binds Value.Canonical → ∀ limits e v,
      (Expr.evaluate limits env e).result = .ok v → v.Canonical) ∧
    (∀ env : Environment, env.Binds Value.Canonical → ∀ runs,
      (env.after runs).Binds Value.Canonical) := by
  have declares : ∀ s : Statement, s.Declares Value.Canonical := by
    intro s
    cases s with
    | declaration name parameters body => exact .function
    | assignment name e => trivial
    | expression e => trivial
  refine ⟨Environment.initial_binds Value.canonical_closed fun _ => .builtin, ?_, ?_⟩
  · intro env bound limits e v
    exact evaluateWithin_keeps Value.canonical_closed _ _ env bound e v
  · intro env bound runs
    exact Environment.after_binds Value.canonical_closed bound (fun _ _ _ _ s _ => declares s) runs

/-- A set of sets with a member twice, and a program that fails after its first binding. -/
theorem evaluation_keeps_canonical_sample :
    Environment.initial.Binds Value.Canonical ∧
    Value.Canonical (.set (some .set) [.set none [], .set (some .integer) [.integer 1, .integer 2]]) ∧
    (Environment.initial.after [(.default, "let s = {2, 1}; fn f(x) = {x, f}; f(s);")]).Binds
      Value.Canonical := by
  obtain ⟨initial, values, programs⟩ := evaluation_keeps_canonical
  refine ⟨initial, ?_, programs _ initial _⟩
  refine values _ initial .default (.set [.set [.integer 2, .integer 1], .set [],
    .set [.integer 1, .integer 2, .integer 1]]) _ ?_
  rfl

end PiecewiseLang
