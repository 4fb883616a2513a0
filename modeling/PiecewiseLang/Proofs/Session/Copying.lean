import Mathlib.Data.Finset.Dedup
import Mathlib.Data.Finset.Insert
import PiecewiseLang.Proofs.Session.Effects

/-! Environments that are copied. Instead of a chain of scopes, a snapshot holds the value of
every name in sight, the names declared since the last call and the depth; a call copies all
values and forgets what was declared. The same programs run on snapshots, and the chain of
scopes cannot be told from them: every chain has its snapshot, and what is done to the one and
to the other leads to the same snapshot. -/
namespace PiecewiseLang

structure Snapshot where
  values : String → Option Value
  declared : Finset String
  depth : Nat

/-- The outcome of running a program on a snapshot. -/
structure Snapshot.Outcome where
  lines : List String
  snapshot : Snapshot
  ending : Ending

namespace Snapshot

section
variable (s : Snapshot)

/-- The snapshot a call begins with. -/
def enter : Snapshot := { s with declared := ∅, depth := s.depth + 1 }

def lookup (name : String) : Except EvalError Value :=
  match s.values name with
  | some value => .ok value
  | none => .error (.unboundName name)

def declare (name : String) (value : Value) : Except EvalError Snapshot :=
  if name ∈ s.declared then .error (.boundAlready name)
  else .ok { s with
    values := Function.update s.values name (some value)
    declared := insert name s.declared }

/-- The snapshot of a call, with the parameters declared in order. -/
def callScope (parameters : List String) (values : List Value) : Traced Snapshot := do
  let scope ← Traced.ofExcept
    ((parameters.zip values).foldlM (fun s binding => s.declare binding.1 binding.2) s.enter)
  if parameters.length = values.length then return scope
  else Traced.ofFailure (.error (.fault .unevenCall))

end

section
variable (evaluate : Snapshot → Expr → Traced Value) (callDepth : Int) (s : Snapshot)

def callFunction (function : String) (parameters : List String) (body : Expr)
    (arguments : List Expr) : Traced Value := do
  Evaluation.requireArity function parameters.length arguments.length
  let values ← Evaluation.all (evaluate s) arguments
  if callDepth ≤ s.depth then Evaluation.refuse callDepth function
  else
    let scope ← s.callScope parameters values
    Traced.call ⟨function, scope.depth⟩
    evaluate scope body

def call (callee : Expr) (arguments : List Expr) : Traced Value := do
  match ← evaluate s callee with
  | .builtin function => Evaluation.callBuiltin (evaluate s) function arguments
  | .function parameters body =>
    callFunction evaluate callDepth s callee.render parameters body arguments
  | other => Traced.fail (.notAFunction callee other.kind)

/-- One step of evaluation on a snapshot. Only names and calls look at it. -/
def step : Expr → Traced Value
  | .integer n => return .integer n
  | .real x => return .ofDouble x
  | .boolean b => return .boolean b
  | .undefined => return .undefined
  | .name name => Traced.ofExcept (s.lookup name)
  | .combination operator left right => Evaluation.combination (evaluate s) operator left right
  | .call callee arguments => call evaluate callDepth s callee arguments
  | .piecewise pieces => Evaluation.arms (evaluate s) pieces
  | .magnitude operand => do Traced.ofExcept (← evaluate s operand).magnitude
  | .set members => do
    Traced.ofFailure (← Evaluation.collect (evaluate s) .empty members).toValue

end

def evaluateWithin (callDepth : Int) : (nesting : Nat) → Snapshot → Expr → Traced Value
  | 0, _, _ => Traced.fail .nestedTooDeeply
  | nesting + 1, s, e => step (evaluateWithin callDepth nesting) callDepth s e

section
variable (limits : Limits)

def evaluate (s : Snapshot) (e : Expr) : Traced Value :=
  s.evaluateWithin limits.callDepth limits.nesting e

/-- Carries out a statement on a snapshot. -/
def perform (s : Snapshot) : Statement → Except EvalFailure (Value × Snapshot)
  | .assignment name e => do
    let value ← (s.evaluate limits e).result
    return (.undefined, ← EvalFailure.ofExcept (s.declare name value))
  | .declaration name parameters body => do
    return (.undefined, ← EvalFailure.ofExcept (s.declare name (.function parameters body)))
  | .expression e => do return (← (s.evaluate limits e).result, s)

def performAll : Snapshot → List Statement → Snapshot.Outcome
  | s, [] => ⟨[], s, .finished⟩
  | s, first :: rest =>
    match s.perform limits first with
    | .error failure => ⟨[], s, .ofFailure failure⟩
    | .ok (value, next) =>
      match first.display limits.rendering value with
      | .error fault => ⟨[], next, .fault fault⟩
      | .ok lines =>
        let last := performAll next rest
        { last with lines := lines ++ last.lines }

def execute (s : Snapshot) (source : String) : Snapshot.Outcome :=
  match parseProgram limits.nesting source with
  | .error (.error e) => ⟨[], s, .parseError e⟩
  | .error (.fault f) => ⟨[], s, .fault f⟩
  | .ok program => performAll limits s program

end

/-- The outcomes of texts that are run one after the other, each under limits of its own. -/
def outcomes : Snapshot → List (Limits × String) → List Snapshot.Outcome
  | _, [] => []
  | s, (limits, source) :: rest =>
    let outcome := s.execute limits source
    outcome :: outcome.snapshot.outcomes rest

end Snapshot

namespace Environment

/-- What can be seen of an environment from inside. -/
def snapshot (env : Environment) : Snapshot :=
  ⟨env.get?, (env.innermost.map Prod.fst).toFinset, env.depth⟩

/-- The outcomes of texts that are run one after the other, each under limits of its own. -/
def outcomes : Environment → List (Limits × String) → List Outcome
  | _, [] => []
  | env, (limits, source) :: rest =>
    let outcome := execute limits env source
    outcome :: outcome.environment.outcomes rest

end Environment

def Outcome.snapshot (outcome : Outcome) : Snapshot.Outcome :=
  ⟨outcome.lines, outcome.environment.snapshot, outcome.ending⟩

namespace Environment

variable {env : Environment}

/-- A scope declares the names it binds. -/
theorem not_mem_declared :
    name ∉ env.snapshot.declared ↔ env.innermost.lookup name = none := by
  rw [snapshot, List.mem_toFinset, List.lookup_eq_none_iff, List.mem_map, not_exists]
  constructor
  · intro absent binding member
    rw [bne_iff_ne]
    rintro rfl
    exact absent binding ⟨member, rfl⟩
  · rintro different binding ⟨member, rfl⟩
    simpa using different binding member

theorem get?_extend (fresh : env.innermost.lookup name = none) :
    (env.extend [(name, value)]).get? = Function.update env.get? name (some value) := by
  funext other
  by_cases same : other = name
  · subst same
    rw [Function.update_self]
    simp [get?, scopes, extend, List.lookup_append, fresh]
  · have different : (other == name) = false := beq_eq_false_iff_ne.mpr same
    rw [Function.update_of_ne same]
    simp [get?, scopes, extend, List.findSome?_cons, List.lookup_append, List.lookup_cons, different]

theorem snapshot_extend (fresh : env.innermost.lookup name = none) :
    (env.extend [(name, value)]).snapshot = { env.snapshot with
      values := Function.update env.snapshot.values name (some value)
      declared := insert name env.snapshot.declared } := by
  have names : ((env.extend [(name, value)]).innermost.map Prod.fst).toFinset =
      insert name (env.innermost.map Prod.fst).toFinset := by
    ext other
    simp only [extend, List.map_append, List.map_cons, List.map_nil, List.mem_toFinset,
      List.mem_append, List.mem_singleton, Finset.mem_insert]
    exact or_comm
  rw [snapshot, get?_extend fresh, names]
  rfl

theorem snapshot_declare (env : Environment) (name : String) (value : Value) :
    env.snapshot.declare name value = (env.declare name value).map snapshot := by
  rw [Snapshot.declare, declare]
  cases bound : env.innermost.lookup name with
  | none =>
    rw [if_neg (not_mem_declared.mpr bound), ← snapshot_extend bound]
    rfl
  | some other =>
    rw [if_pos (not_not.mp fun absent => by simp [not_mem_declared.mp absent] at bound)]
    rfl

/-- Declaring names one after the other leads to the same snapshot, or to the same error. -/
theorem snapshot_declareAll (env : Environment) (bindings : Bindings) :
    bindings.foldlM (fun s binding => s.declare binding.1 binding.2) env.snapshot =
      match env.declareAll bindings with
      | (last, none) => .ok last.snapshot
      | (_, some e) => .error e := by
  induction bindings generalizing env with
  | nil => rfl
  | cons binding bindings ih =>
    rw [List.foldlM_cons, snapshot_declare, declareAll]
    cases env.declare binding.1 binding.2 with
    | error e => rfl
    | ok next => exact ih next

end Environment

namespace Snapshot

/-- The snapshot has the values and the depth of an environment; what is declared is left open. -/
structure Sees (s : Snapshot) (env : Environment) : Prop where
  values : s.values = env.get?
  depth : s.depth = env.depth

theorem sees_snapshot (env : Environment) : env.snapshot.Sees env := ⟨rfl, rfl⟩

section
variable {s : Snapshot} {env : Environment} (sees : s.Sees env)

include sees

/-- A call forgets what was declared, so it begins with the snapshot of the new scope. -/
theorem Sees.enter_eq : s.enter = env.child.snapshot := by
  rw [enter, sees.values, sees.depth]
  rfl

theorem Sees.lookup_eq (name : String) : s.lookup name = env.lookup name := by
  rw [lookup, sees.values]
  rfl

theorem Sees.callScope_bind (parameters : List String) (values : List Value)
    (next : Snapshot → Traced β) : s.callScope parameters values >>= next =
      Evaluation.callScope env parameters values >>= fun scope => next scope.snapshot := by
  unfold callScope Evaluation.callScope
  rw [sees.enter_eq, Environment.snapshot_declareAll]
  rcases env.child.declareAll (parameters.zip values) with ⟨scope, _ | e⟩
  · by_cases paired : parameters.length = values.length
    · simp only [if_pos paired]
      rfl
    · simp only [if_neg paired]
      rfl
  · rfl

end

section
variable {evaluate : Snapshot → Expr → Traced Value}
  {evaluate' : Environment → Expr → Traced Value} {callDepth : Int}
  (given : ∀ s env, s.Sees env → ∀ e, evaluate s e = evaluate' env e)
  {s : Snapshot} {env : Environment} (sees : s.Sees env)

include given sees

theorem callFunction_eq (function : String) (parameters : List String) (body : Expr)
    (arguments : List Expr) : callFunction evaluate callDepth s function parameters body arguments =
      Evaluation.callFunction evaluate' callDepth env function parameters body arguments := by
  have inner : evaluate s = evaluate' env := funext (given s env sees)
  unfold callFunction Evaluation.callFunction
  rw [inner, sees.depth]
  congr
  funext _
  congr
  funext values
  split
  · rfl
  · -- From here on the body is evaluated on the snapshot of the very scope that was opened.
    rw [sees.callScope_bind]
    congr
    funext scope
    rw [funext (given _ _ (sees_snapshot scope))]
    rfl

theorem call_eq (callee : Expr) (arguments : List Expr) :
    call evaluate callDepth s callee arguments =
      Evaluation.call evaluate' callDepth env callee arguments := by
  have inner : evaluate s = evaluate' env := funext (given s env sees)
  unfold call Evaluation.call
  rw [inner]
  congr
  funext function
  cases function with
  | function parameters body => exact callFunction_eq given sees _ parameters body arguments
  | _ => rfl

theorem step_eq (e : Expr) :
    step evaluate callDepth s e = Evaluation.step evaluate' callDepth env e := by
  have inner : evaluate s = evaluate' env := funext (given s env sees)
  cases e with
  | name n => simp only [step, Evaluation.step, sees.lookup_eq]
  | call callee arguments => exact call_eq given sees callee arguments
  | _ => simp only [step, Evaluation.step, inner]

end

/-- Evaluation gives the same and makes the same calls on a snapshot as in an environment that
has its values and its depth. -/
theorem evaluateWithin_eq (callDepth : Int) (nesting : Nat) : ∀ s env, Sees s env → ∀ e,
    s.evaluateWithin callDepth nesting e =
      PiecewiseLang.evaluateWithin callDepth nesting env e := by
  induction nesting with
  | zero => exact fun _ _ _ _ => rfl
  | succ nesting ih => exact fun s env sees e => step_eq ih sees e

section
variable (limits : Limits) (env : Environment)

theorem evaluate_snapshot (e : Expr) : env.snapshot.evaluate limits e = e.evaluate limits env :=
  evaluateWithin_eq _ _ _ _ (sees_snapshot env) e

/-- The last thing a statement does that binds a name. -/
theorem declare_snapshot (name : String) (value : Value) :
    (do return (Value.undefined, ← EvalFailure.ofExcept (env.snapshot.declare name value)) :
      Except EvalFailure (Value × Snapshot)) =
    Except.map (fun outcome => (outcome.1, outcome.2.snapshot))
      (do return (Value.undefined, ← EvalFailure.ofExcept (env.declare name value))) := by
  rw [Environment.snapshot_declare]
  cases env.declare name value <;> rfl

theorem perform_snapshot (statement : Statement) : env.snapshot.perform limits statement =
    (statement.execute limits env).result.map fun outcome => (outcome.1, outcome.2.snapshot) := by
  cases statement with
  | assignment name e =>
    simp only [perform, Statement.execute, Traced.result_bind, Traced.result_ofExcept,
      evaluate_snapshot]
    cases (e.evaluate limits env).result with
    | error f => rfl
    | ok value => exact declare_snapshot env name value
  | declaration name parameters body =>
    simp only [perform, Statement.execute, Traced.result_bind, Traced.result_ofExcept]
    exact declare_snapshot env name (.function parameters body)
  | expression e =>
    simp only [perform, Statement.execute, Traced.result_bind, evaluate_snapshot]
    cases (e.evaluate limits env).result <;> rfl

theorem performAll_snapshot (program : List Statement) :
    performAll limits env.snapshot program =
      ⟨(Statement.executeAll limits env program).lines,
        (Statement.executeAll limits env program).environment.snapshot,
        ((Statement.executeAll limits env program).failure.map .ofFailure).getD .finished⟩ := by
  induction program generalizing env with
  | nil => rfl
  | cons first rest ih =>
    rw [performAll, perform_snapshot, Statement.executeAll]
    cases (first.execute limits env).result with
    | error f => rfl
    | ok outcome =>
      obtain ⟨value, next⟩ := outcome
      simp only [Except.map]
      cases first.display limits.rendering value with
      | error fault => rfl
      | ok lines => simp only [ih next]; rfl

/-- Running a text and then taking the snapshot is taking the snapshot and then running it. -/
theorem execute_snapshot (source : String) :
    env.snapshot.execute limits source = (PiecewiseLang.execute limits env source).snapshot := by
  rw [execute]
  cases parsed : parseProgram limits.nesting source with
  | error failure =>
    rw [PiecewiseLang.execute, parsed]
    cases failure <;> rfl
  | ok program =>
    obtain ⟨lines, environment, ending⟩ := execute_of_parsed parsed env
    rw [PiecewiseLang.Outcome.snapshot, lines, environment, ending]
    exact performAll_snapshot limits env program

end

theorem outcomes_snapshot (env : Environment) (runs : List (Limits × String)) :
    env.snapshot.outcomes runs = (env.outcomes runs).map PiecewiseLang.Outcome.snapshot := by
  induction runs generalizing env with
  | nil => rfl
  | cons run runs ih =>
    rw [outcomes, Environment.outcomes, List.map_cons, execute_snapshot, ← ih]
    rfl

end Snapshot

/-- A chain of scopes behaves as an environment that is copied on every call: texts that are run
one after the other show the same lines and end in the same way on the snapshot, and lead to the
snapshots of the environments they lead to. Evaluation gives the same and makes the same calls.
Hence it depends on an environment only through the values of the names in sight and the depth. -/
theorem chains_refine_snapshots :
    (∀ (env : Environment) (runs : List (Limits × String)),
      env.snapshot.outcomes runs = (env.outcomes runs).map Outcome.snapshot) ∧
    (∀ (env : Environment) (limits : Limits) (e : Expr),
      env.snapshot.evaluate limits e = e.evaluate limits env) ∧
    ∀ env env' : Environment, (∀ name, env.get? name = env'.get? name) → env.depth = env'.depth →
      ∀ (limits : Limits) (e : Expr), e.evaluate limits env = e.evaluate limits env' := by
  refine ⟨Snapshot.outcomes_snapshot, fun env limits => Snapshot.evaluate_snapshot limits env, ?_⟩
  intro env env' values depth limits e
  have sees : env.snapshot.Sees env' := ⟨funext values, depth⟩
  rw [← Snapshot.evaluate_snapshot]
  exact Snapshot.evaluateWithin_eq _ _ _ _ sees e

/-- A scope that hides the `y` of the scope around it, and one that does not bind it. -/
def hidingSample : Environment := ⟨[("y", .integer 1)], [[("y", .integer 0)]]⟩

def plainSample : Environment := ⟨[], [[("y", .integer 1)]]⟩

/-- A body sees the `y` of its caller; the scope of the program can bind `y` once. -/
def calledSample : String :=
  "fn g(x) = y + x; fn h(y) = g(y); h(5); let y = 7; g(1); let y = 8;"

theorem chains_refine_snapshots_sample :
    (plainSample.snapshot.outcomes [(⟨4, 20, 20⟩, calledSample)]).map
        (fun outcome => (outcome.lines, outcome.ending)) =
      [(["10", "8"], .evalError (.boundAlready "y"))] ∧
    Expr.evaluate ⟨4, 20, 20⟩ hidingSample (.set [.name "y"]) =
      Expr.evaluate ⟨4, 20, 20⟩ plainSample (.set [.name "y"]) := by
  have ran : (plainSample.outcomes [(⟨4, 20, 20⟩, calledSample)]).map
      (fun outcome => (outcome.lines, outcome.ending)) =
        [(["10", "8"], .evalError (.boundAlready "y"))] := by decide +kernel
  have seen : ∀ name, hidingSample.get? name = plainSample.get? name := by
    intro name
    simp only [hidingSample, plainSample, Environment.get?, Environment.scopes,
      List.findSome?_cons, List.lookup_cons]
    cases name == "y" <;> rfl
  obtain ⟨outcomes, -, evaluations⟩ := chains_refine_snapshots
  constructor
  · rw [outcomes, List.map_map]
    exact ran
  · exact evaluations _ _ seen rfl _ _

end PiecewiseLang
