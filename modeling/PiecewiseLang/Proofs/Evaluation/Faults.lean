import PiecewiseLang.Proofs.Evaluation.Soundness

/-! Where evaluation breaks down. The factorial is the one operation that integers can be too
large for, and a call that is refused the one place where the limit on the depth of calls is
written. So an expression ends with such a fault exactly if evaluating it comes to a factorial or
to a refused call that has the fault, in a part of it or in the body of a function it calls: the
expressions around that one end with it too, and none of them has another way to it. -/
namespace PiecewiseLang

/-- Faults of data: of the size of numbers, of their text, and of the depth of values. -/
def EvalFailure.isDataFault : EvalFailure → Bool
  | .fault .overlongInteger | .fault .malformedNumeral | .fault .oversizedFactorial => true
  | .fault .overlongLimit | .fault .overdeepValue => true
  | _ => false

/-- A fault is one of data or one of structure. -/
theorem EvalFailure.isDataFault_of_ordinary {g : Fault} (ordinary : Ordinary (.fault g)) :
    isDataFault (.fault g) = true := by
  cases g with
  | overlongInteger | malformedNumeral | oversizedFactorial | overlongLimit | overdeepValue => rfl
  | missingEntry | unevenCall => cases ordinary.1

theorem Fails.noDataFault {α : Type} (x : Except EvalError α) :
    Fails (fun f => f.isDataFault = false) (EvalFailure.ofExcept x) := by
  cases x with
  | error e => exact Fails.error rfl
  | ok a => exact .ok a

theorem EvalFailure.ofExcept_eq_ok {α : Type} {x : Except EvalError α} {a : α} :
    ofExcept x = .ok a ↔ x = .ok a := by
  cases x with
  | error e => constructor <;> rintro ⟨⟩
  | ok b => constructor <;> rintro ⟨⟩ <;> rfl

theorem EvalFailure.ofExcept_ne_error {α : Type} {f : EvalFailure} (data : f.isDataFault = true)
    (x : Except EvalError α) : ofExcept x ≠ .error f := by
  intro failed
  simp [Fails.noDataFault x f failed] at data

theorem Collection.toValue_noDataFault (c : Collection) :
    Fails (fun f => f.isDataFault = false) c.toValue := by
  unfold toValue
  split
  · exact .ok _
  · exact .error rfl

namespace Value

theorem setOf_noDataFault (members : List Value) :
    Fails (fun f => f.isDataFault = false) (setOf members) :=
  (Fails.noDataFault _).bind fun c _ => c.toValue_noDataFault

theorem plusMinus_noDataFault (left right : Value) :
    Fails (fun f => f.isDataFault = false) (plusMinus left right) := by
  unfold plusMinus
  split
  · exact .ok _
  · exact .ok _
  · split
    · refine (Fails.noDataFault _).bind fun sum _ => (Fails.noDataFault _).bind fun difference _ => ?_
      split
      · exact .ok _
      · exact setOf_noDataFault _
    · exact .error rfl

theorem compare_noDataFault (symbol : Symbol) (left right : Value) :
    Fails (fun f => f.isDataFault = false) (compare symbol left right) := by
  have table : Fails (fun f => f.isDataFault = false) (Comparison.ofSymbol symbol) := by
    unfold Comparison.ofSymbol
    split
    case h_7 => exact .error rfl
    all_goals exact .ok _
  unfold compare
  split
  · exact .ok _
  · exact .ok _
  · exact .noDataFault _
  · exact (Fails.noDataFault _).bind fun _ _ => table.bind fun _ _ => .ok _
  · split
    · exact table.bind fun _ _ => .ok _
    · exact .error rfl

theorem connect_noDataFault (symbol : Symbol) (left right : Value) :
    Fails (fun f => f.isDataFault = false) (connect symbol left right) := by
  have table : Fails (fun f => f.isDataFault = false) (Connective.ofSymbol symbol) := by
    unfold Connective.ofSymbol
    split
    case h_4 => exact .error rfl
    all_goals exact .ok _
  unfold connect
  split
  · exact .ok _
  · exact .ok _
  · exact table.bind fun _ _ => .ok _
  · exact .error rfl

theorem setAlgebra_noDataFault (operation : SetOperation) (left right : Value) :
    Fails (fun f => f.isDataFault = false) (setAlgebra operation left right) := by
  unfold setAlgebra
  split
  · exact .ok _
  · exact .ok _
  · exact (Fails.noDataFault _).bind fun _ _ => setOf_noDataFault _
  · exact .error rfl

end Value

/-- No operation on two operands has a fault of data. -/
theorem Symbol.infixOperation_noDataFault {symbol : Symbol}
    (found : symbol.infixOperation? = some operation) (left right : Value) :
    Fails (fun f => f.isDataFault = false) (operation left right) := by
  cases symbol with
  | add | sub | mul | div | mod | pow | mem => cases found; exact .noDataFault _
  | plusMinus | minusPlus => cases found; exact Value.plusMinus_noDataFault left right
  | eq | ne | lt | le | gt | ge => cases found; exact Value.compare_noDataFault _ left right
  | and | or | xor => cases found; exact Value.connect_noDataFault _ left right
  | coalesce => cases found; exact .ok _
  | union | intersection | difference | symmetricDifference =>
    cases found
    exact Value.setAlgebra_noDataFault _ left right
  | not | cast | factorial | call => cases found

theorem Symbol.ne_cast {symbol : Symbol} (found : symbol.infixOperation? = some operation) :
    symbol ≠ .cast := by
  rintro rfl
  cases found

/-- The integers whose factorial breaks down, and how. Past the machine word it is not taken; a
negative integer is named in the error that it causes, unless it has too many digits. -/
inductive FactorialBreaks : Int → Fault → Prop where
  | large : Value.factorialMax < n → FactorialBreaks n .oversizedFactorial
  | long : n < 0 → 10 ^ Text.digitLimit ≤ n.natAbs → FactorialBreaks n .overlongInteger

theorem Value.factorial_eq_fault {v : Value} : v.factorial = .error (.fault g) ↔
    ∃ n, v = .integer n ∧ FactorialBreaks n g := by
  constructor
  · intro failed
    cases v with
    | integer n =>
      refine ⟨n, rfl, ?_⟩
      simp only [factorial] at failed
      split at failed
      case isTrue negative =>
        split at failed
        case h_1 => cases failed
        case h_2 missing =>
          cases failed
          exact .long negative (Text.writeInteger_eq_none.mp missing)
      case isFalse =>
        split at failed
        case isTrue large =>
          cases failed
          exact .large large
        case isFalse => cases failed
    | _ => cases failed
  · rintro ⟨n, rfl, breaks⟩
    cases breaks with
    | large large =>
      have natural : ¬n < 0 := by rw [factorialMax] at large; omega
      rw [factorial, if_neg natural, if_pos large]
    | long negative long =>
      rw [factorial, if_pos negative, Text.writeInteger_eq_none.mpr long]

/-- The number of arguments a function takes. -/
def Value.arity? : Value → Option Nat
  | .builtin f => some f.parameters.length
  | .function parameters _ => some parameters.length
  | _ => none

namespace Evaluation

/-- The expressions that evaluating an expression comes to, each with the environment it is
evaluated in. Whatever comes before it has been evaluated and was as it should be. -/
inductive Enters (evaluate : Environment → Expr → Traced Value) (callDepth : Int)
    (env : Environment) : Expr → Environment → Expr → Prop where
  | prefixed : symbol.prefixOperation? = some operation → Enters evaluate callDepth env
      (.combination ⟨symbol, .prefixed⟩ other (some operand)) env operand
  | postfixed : Enters evaluate callDepth env
      (.combination ⟨.factorial, .postfixed⟩ (some operand) other) env operand
  | cast : Enters evaluate callDepth env
      (.combination ⟨.cast, .infixed⟩ (some operand) (some (.name domain))) env operand
  | left : symbol.infixOperation? = some operation → Enters evaluate callDepth env
      (.combination ⟨symbol, .infixed⟩ (some left) (some right)) env left
  | right : symbol.infixOperation? = some operation → (evaluate env left).result = .ok value →
      Enters evaluate callDepth env
        (.combination ⟨symbol, .infixed⟩ (some left) (some right)) env right
  | callee : Enters evaluate callDepth env (.call callee arguments) env callee
  | argument : (evaluate env callee).result = .ok function →
      function.arity? = some (before ++ argument :: after).length →
      (∀ e ∈ before, ∃ value, (evaluate env e).result = .ok value) →
      Enters evaluate callDepth env (.call callee (before ++ argument :: after)) env argument
  | body : (evaluate env callee).result = .ok (.function parameters body) →
      arguments.length = parameters.length →
      (all (evaluate env) arguments).result = .ok values → env.depth < callDepth →
      (callScope env parameters values).result = .ok scope →
      Enters evaluate callDepth env (.call callee arguments) scope body
  | guard {condition : Expr} {before : List (Expr × Expr)} :
      (∀ piece ∈ before, (evaluate env piece.2).result = .ok (.boolean false)) →
      Enters evaluate callDepth env (.piecewise (before ++ (value, condition) :: after)) env
        condition
  | arm {condition : Expr} {before : List (Expr × Expr)} :
      (∀ piece ∈ before, (evaluate env piece.2).result = .ok (.boolean false)) →
      (evaluate env condition).result = .ok (.boolean true) →
      Enters evaluate callDepth env (.piecewise (before ++ (value, condition) :: after)) env value
  | magnitude : Enters evaluate callDepth env (.magnitude operand) env operand
  | member : (collect (evaluate env) .empty before).result = .ok collection →
      Enters evaluate callDepth env (.set (before ++ member :: after)) env member

/-- What evaluation comes to that can break down by itself. -/
inductive Event where
  /-- The factorial of a value is taken. -/
  | factorial (value : Value)
  /-- A call of a function is refused for its depth. -/
  | refusal (function : String)

/-- How an event fails. -/
def Event.Fails (callDepth : Int) (f : EvalFailure) : Event → Prop
  | .factorial value => value.factorial = .error f
  | .refusal function => (refuse callDepth function).result = .error f

/-- The faults of an event. -/
inductive Event.Breaks (callDepth : Int) : Event → Fault → Prop where
  | factorial : FactorialBreaks n fault → Event.Breaks callDepth (.factorial (.integer n)) fault
  | refusal : 10 ^ Text.digitLimit ≤ callDepth.natAbs →
      Event.Breaks callDepth (.refusal function) .overlongLimit

theorem Event.fails_fault {event : Event} :
    event.Fails callDepth (.fault g) ↔ event.Breaks callDepth g := by
  cases event with
  | factorial value =>
    constructor
    · intro failed
      obtain ⟨n, rfl, breaks⟩ := Value.factorial_eq_fault.mp failed
      exact .factorial breaks
    · rintro ⟨breaks⟩
      exact Value.factorial_eq_fault.mpr ⟨_, rfl, breaks⟩
  | refusal function =>
    change (refuse callDepth function).result = .error (.fault g) ↔ _
    obtain ⟨short, refused⟩ | ⟨long, refused⟩ := refuse_cases callDepth function
    · rw [refused]
      constructor
      · intro failed
        cases failed
      · rintro ⟨⟩
        case refusal long => exact absurd short (Nat.not_lt.mpr long)
    · rw [refused]
      constructor
      · intro failed
        cases failed
        exact .refusal long
      · rintro ⟨⟩
        rfl

/-- An expression that comes to an event itself, once what is inside it has been evaluated. -/
inductive Happens (evaluate : Environment → Expr → Traced Value) (callDepth : Int)
    (env : Environment) : Expr → Event → Prop where
  | takes : (evaluate env operand).result = .ok value → Happens evaluate callDepth env
      (.combination ⟨.factorial, .postfixed⟩ (some operand) other) (.factorial value)
  | refuses : (evaluate env callee).result = .ok (.function parameters body) →
      arguments.length = parameters.length →
      (all (evaluate env) arguments).result = .ok values → callDepth ≤ env.depth →
      Happens evaluate callDepth env (.call callee arguments) (.refusal callee.render)

/-- Where a failure of an expression comes from: from an event that it comes to itself, or from an
expression that evaluating it comes to. -/
inductive Origin (evaluate : Environment → Expr → Traced Value) (callDepth : Int)
    (env : Environment) (f : EvalFailure) : Expr → Prop where
  | here : Happens evaluate callDepth env e event → event.Fails callDepth f →
      Origin evaluate callDepth env f e
  | inside : Enters evaluate callDepth env e scope part → (evaluate scope part).result = .error f →
      Origin evaluate callDepth env f e

section
variable {inner : Expr → Traced Value} {f : EvalFailure}

theorem all_eq_error {es : List Expr} : (all inner es).result = .error f ↔
    ∃ before e after, es = before ++ e :: after ∧
      (∀ a ∈ before, ∃ value, (inner a).result = .ok value) ∧ (inner e).result = .error f := by
  apply first_of_cons (P := fun es => (all inner es).result = .error f)
  · simp [all]
  · intro a rest
    simp [all, bind_eq_error]

variable (data : f.isDataFault = true)

include data

theorem collect_eq_error {es : List Expr} {c : Collection} :
    (collect inner c es).result = .error f ↔ ∃ before e after d, es = before ++ e :: after ∧
      (collect inner c before).result = .ok d ∧ (inner e).result = .error f := by
  induction es generalizing c with
  | nil => simp [collect]
  | cons a es ih =>
    have first : (collect inner c (a :: es)).result = .error f ↔ (inner a).result = .error f ∨
        ∃ value d, (inner a).result = .ok value ∧ c.add value = .ok d ∧
          (collect inner d es).result = .error f := by
      simp only [collect, Traced.result_bind, Traced.result_ofExcept, bind_eq_error,
        EvalFailure.ofExcept_ne_error data, EvalFailure.ofExcept_eq_ok]
      simp
    rw [first]
    constructor
    · rintro (failed | ⟨value, d, evaluated, added, failed⟩)
      · exact ⟨[], a, es, c, rfl, rfl, failed⟩
      · obtain ⟨before, e, after, d', rfl, earlier, failed⟩ := ih.mp failed
        refine ⟨a :: before, e, after, d', rfl, ?_, failed⟩
        simp only [collect, Traced.result_bind, Traced.result_ofExcept, bind_eq_ok,
          EvalFailure.ofExcept_eq_ok]
        exact ⟨value, evaluated, d, added, earlier⟩
    · rintro ⟨_ | ⟨b, before⟩, e, after, d, split, earlier, failed⟩
      · cases split
        exact .inl failed
      · cases split
        simp only [collect, Traced.result_bind, Traced.result_ofExcept, bind_eq_ok,
          EvalFailure.ofExcept_eq_ok] at earlier
        obtain ⟨value, evaluated, c', added, earlier⟩ := earlier
        exact .inr ⟨value, c', evaluated, added, ih.mpr ⟨before, e, after, d, rfl, earlier, failed⟩⟩

theorem arms_eq_error {pieces : List (Expr × Expr)} : (arms inner pieces).result = .error f ↔
    ∃ before piece after, pieces = before ++ piece :: after ∧
      (∀ p ∈ before, (inner p.2).result = .ok (.boolean false)) ∧
      ((inner piece.2).result = .error f ∨
        (inner piece.2).result = .ok (.boolean true) ∧ (inner piece.1).result = .error f) := by
  have errors (e : EvalError) : (EvalFailure.error e) ≠ f := by
    rintro rfl
    cases data
  apply first_of_cons (P := fun pieces => (arms inner pieces).result = .error f)
  · simp [arms]
  · rintro ⟨value, condition⟩ rest
    simp only [arms, Traced.result_bind]
    cases (inner condition).result with
    | error g => simp [bind, Except.bind]
    | ok v =>
      cases v with
      | boolean b => cases b <;> simp [bind, Except.bind]
      | _ => simp [bind, Except.bind, errors]

end

section
variable {evaluate : Environment → Expr → Traced Value} {callDepth : Int} {env : Environment}

/-- Failures of an expression, which have an origin if they are faults of data. -/
def Explained (evaluate : Environment → Expr → Traced Value) (callDepth : Int)
    (env : Environment) (e : Expr) (f : EvalFailure) : Prop :=
  f.isDataFault = true → Origin evaluate callDepth env f e

theorem Enters.explained (enters : Enters evaluate callDepth env e scope part) :
    Fails (Explained evaluate callDepth env e) (evaluate scope part).result :=
  fun _ failed _ => .inside enters failed

theorem explained_of_noDataFault {x : Except EvalFailure α}
    (given : Fails (fun f => f.isDataFault = false) x) :
    Fails (Explained evaluate callDepth env e) x := by
  intro f failed data
  rw [given f failed] at data
  cases data

theorem explained_error {α : Type} (err : EvalError) :
    Fails (Explained evaluate callDepth env e) (.error (.error err) : Except EvalFailure α) :=
  explained_of_noDataFault (.error rfl)

theorem combination_explained (operator : Operator) (left right : Option Expr) :
    Fails (Explained evaluate callDepth env (.combination operator left right))
      (combination (evaluate env) operator left right).result := by
  obtain ⟨symbol, fixity⟩ := operator
  unfold combination
  split
  case h_1 operand prefixed =>
    cases prefixed
    split
    case h_1 operation found =>
      simp only [Traced.result_bind, Traced.result_ofExcept]
      refine (Enters.prefixed found).explained.bind fun v _ => ?_
      exact explained_of_noDataFault (.noDataFault _)
    case h_2 => exact explained_error _
  case h_2 operand postfixed =>
    cases postfixed
    cases symbol with
    | factorial =>
      -- The one operation with faults of its own: here the origin is not further inside.
      simp only [Symbol.postfixOperation?, Traced.result_bind, Traced.result_ofFailure]
      refine Enters.postfixed.explained.bind fun v evaluated => ?_
      exact fun f failed _ => .here (.takes evaluated) failed
    | _ => exact explained_error _
  case h_3 left right infixed =>
    cases infixed
    split
    case isTrue same =>
      cases same
      unfold cast
      split
      · simp only [Traced.result_bind, Traced.result_ofExcept]
        exact Enters.cast.explained.bind fun v _ => explained_of_noDataFault (.noDataFault _)
      · exact explained_error _
    case isFalse =>
      split
      case h_1 operation found =>
        simp only [Traced.result_bind, Traced.result_ofFailure]
        refine (Enters.left found).explained.bind fun l first => ?_
        refine (Enters.right found first).explained.bind fun r _ => ?_
        exact explained_of_noDataFault (Symbol.infixOperation_noDataFault found l r)
      case h_2 => exact explained_error _
  · exact explained_error _

theorem callScope_noDataFault :
    Fails (fun f => f.isDataFault = false) (callScope env parameters values).result := by
  unfold callScope
  split
  · exact .error rfl
  · split
    · exact .ok _
    · exact .error rfl

/-- The arguments of a call, once there are as many of them as the function takes. -/
theorem arguments_explained (evaluated : (evaluate env callee).result = .ok function)
    (arity : function.arity? = some arguments.length) :
    Fails (Explained evaluate callDepth env (.call callee arguments))
      (all (evaluate env) arguments).result := by
  intro f failed _
  obtain ⟨before, argument, after, rfl, earlier, failed⟩ := all_eq_error.mp failed
  exact .inside (.argument evaluated arity earlier) failed

theorem call_explained (callee : Expr) (arguments : List Expr) :
    Fails (Explained evaluate callDepth env (.call callee arguments))
      (call evaluate callDepth env callee arguments).result := by
  simp only [call, Traced.result_bind]
  refine Enters.callee.explained.bind fun function evaluated => ?_
  split
  case h_1 f =>
    simp only [callBuiltin, requireArity]
    split
    case isTrue arity =>
      simp only [Traced.result_bind, Traced.result_pure]
      refine (arguments_explained evaluated (congrArg some arity.symm)).bind fun values _ => ?_
      split
      · rw [Traced.result_ofExcept]
        exact explained_of_noDataFault (.noDataFault _)
      · exact explained_error _
    case isFalse => exact explained_error _
  case h_2 parameters body =>
    simp only [callFunction, requireArity]
    split
    case isTrue arity =>
      simp only [Traced.result_bind, Traced.result_pure]
      refine (arguments_explained evaluated (congrArg some arity.symm)).bind fun values known => ?_
      split
      case isTrue deep => exact fun f failed _ => .here (.refuses evaluated arity known deep) failed
      case isFalse shallow =>
        simp only [Traced.result_bind, Traced.result_call]
        refine (explained_of_noDataFault callScope_noDataFault).bind fun scope opened => ?_
        exact (Enters.body evaluated arity known (Int.not_le.mp shallow) opened).explained
    case isFalse => exact explained_error _
  · exact explained_error _

theorem step_explained (e : Expr) :
    Fails (Explained evaluate callDepth env e) (step evaluate callDepth env e).result := by
  cases e with
  | integer n => exact .ok _
  | real x => exact .ok _
  | boolean b => exact .ok _
  | undefined => exact .ok _
  | name n =>
    simp only [step, Traced.result_ofExcept]
    exact explained_of_noDataFault (.noDataFault _)
  | combination operator left right => exact combination_explained operator left right
  | call callee arguments => exact call_explained callee arguments
  | piecewise pieces =>
    intro f failed data
    obtain ⟨before, ⟨value, condition⟩, after, rfl, earlier, failed⟩ :=
      (arms_eq_error data).mp failed
    rcases failed with failed | ⟨holds, failed⟩
    · exact .inside (.guard earlier) failed
    · exact .inside (.arm earlier holds) failed
  | magnitude operand =>
    simp only [step, Traced.result_bind, Traced.result_ofExcept]
    exact Enters.magnitude.explained.bind fun v _ => explained_of_noDataFault (.noDataFault _)
  | set members =>
    simp only [step, Traced.result_bind, Traced.result_ofFailure]
    refine Fails.bind ?_ fun c _ => explained_of_noDataFault c.toValue_noDataFault
    intro f failed data
    obtain ⟨before, member, after, d, rfl, earlier, failed⟩ := (collect_eq_error data).mp failed
    exact .inside (.member earlier) failed

/-- A call whose callee is a function of as many arguments fails if one of these does. -/
theorem call_of_argument_error (evaluated : (evaluate env callee).result = .ok function)
    (arity : function.arity? = some arguments.length)
    (failed : (all (evaluate env) arguments).result = .error f) :
    (call evaluate callDepth env callee arguments).result = .error f := by
  simp only [call, Traced.result_bind]
  refine bind_eq_error.mpr (.inr ⟨function, evaluated, ?_⟩)
  cases function with
  | builtin builtin =>
    have same : arguments.length = builtin.parameters.length := (Option.some.inj arity).symm
    simp only [callBuiltin, requireArity, if_pos same, Traced.result_bind, Traced.result_pure]
    exact bind_eq_error.mpr (.inr ⟨(), rfl, bind_eq_error.mpr (.inl failed)⟩)
  | function parameters body =>
    have same : arguments.length = parameters.length := (Option.some.inj arity).symm
    simp only [callFunction, requireArity, if_pos same, Traced.result_bind, Traced.result_pure]
    exact bind_eq_error.mpr (.inr ⟨(), rfl, bind_eq_error.mpr (.inl failed)⟩)
  | _ => cases arity

/-- A fault of data in what evaluating an expression comes to is one of the expression. -/
theorem Enters.error (enters : Enters evaluate callDepth env e scope part)
    (failed : (evaluate scope part).result = .error f) (data : f.isDataFault = true) :
    (step evaluate callDepth env e).result = .error f := by
  cases enters with
  | prefixed found =>
    simp only [step, combination, found, Traced.result_bind]
    exact bind_eq_error.mpr (.inl failed)
  | postfixed =>
    simp only [step, combination, Symbol.postfixOperation?, Traced.result_bind]
    exact bind_eq_error.mpr (.inl failed)
  | cast =>
    simp only [step, combination, if_true, Evaluation.cast, Traced.result_bind]
    exact bind_eq_error.mpr (.inl failed)
  | left found =>
    simp only [step, combination, if_neg (Symbol.ne_cast found), found, Traced.result_bind]
    exact bind_eq_error.mpr (.inl failed)
  | right found evaluated =>
    simp only [step, combination, if_neg (Symbol.ne_cast found), found, Traced.result_bind]
    exact bind_eq_error.mpr (.inr ⟨_, evaluated, bind_eq_error.mpr (.inl failed)⟩)
  | callee =>
    simp only [step, call, Traced.result_bind]
    exact bind_eq_error.mpr (.inl failed)
  | argument evaluated arity earlier =>
    exact call_of_argument_error evaluated arity (all_eq_error.mpr ⟨_, _, _, rfl, earlier, failed⟩)
  | body evaluated arity known shallow opened =>
    simp only [step, call, Traced.result_bind]
    refine bind_eq_error.mpr (.inr ⟨_, evaluated, ?_⟩)
    simp only [callFunction, requireArity, if_pos arity, Traced.result_bind, Traced.result_pure]
    refine bind_eq_error.mpr (.inr ⟨(), rfl, bind_eq_error.mpr (.inr ⟨_, known, ?_⟩)⟩)
    simp only [if_neg (Int.not_le.mpr shallow), Traced.result_bind, Traced.result_call]
    exact bind_eq_error.mpr (.inr ⟨_, opened, failed⟩)
  | guard earlier =>
    exact (arms_eq_error data).mpr ⟨_, _, _, rfl, earlier, .inl failed⟩
  | arm earlier holds =>
    exact (arms_eq_error data).mpr ⟨_, _, _, rfl, earlier, .inr ⟨holds, failed⟩⟩
  | magnitude =>
    simp only [step, Traced.result_bind]
    exact bind_eq_error.mpr (.inl failed)
  | member earlier =>
    simp only [step, Traced.result_bind]
    apply bind_eq_error.mpr
    exact .inl ((collect_eq_error data).mpr ⟨_, _, _, _, rfl, earlier, failed⟩)

/-- A failure of an event that an expression comes to itself is one of the expression. -/
theorem Happens.error (happens : Happens evaluate callDepth env e event)
    (failed : event.Fails callDepth f) : (step evaluate callDepth env e).result = .error f := by
  cases happens with
  | takes evaluated =>
    simp only [step, combination, Symbol.postfixOperation?, Traced.result_bind]
    exact bind_eq_error.mpr (.inr ⟨_, evaluated, failed⟩)
  | refuses evaluated arity known deep =>
    simp only [step, call, Traced.result_bind]
    refine bind_eq_error.mpr (.inr ⟨_, evaluated, ?_⟩)
    simp only [callFunction, requireArity, if_pos arity, Traced.result_bind, Traced.result_pure]
    refine bind_eq_error.mpr (.inr ⟨(), rfl, bind_eq_error.mpr (.inr ⟨_, known, ?_⟩)⟩)
    rw [if_pos deep]
    exact failed

/-- One step of evaluation has a fault of data exactly if the fault has an origin. -/
theorem step_eq_error (data : f.isDataFault = true) :
    (step evaluate callDepth env e).result = .error f ↔ Origin evaluate callDepth env f e := by
  constructor
  · exact fun failed => step_explained e f failed data
  · intro origin
    cases origin with
    | inside enters failed => exact enters.error failed data
    | here happens failed => exact happens.error failed

end

/-- The evaluation of an expression comes to an event: in the expression itself, or in an
expression that it comes to. -/
inductive Occurs (callDepth : Int) : Nat → Environment → Expr → Event → Prop where
  | here : Happens (evaluateWithin callDepth nesting) callDepth env e event →
      Occurs callDepth (nesting + 1) env e event
  | inside : Enters (evaluateWithin callDepth nesting) callDepth env e scope part →
      Occurs callDepth nesting scope part event → Occurs callDepth (nesting + 1) env e event

end Evaluation

open PiecewiseLang.Evaluation (Event Occurs)

/-- The faults of data that evaluation has are those of the events it comes to. -/
theorem evaluateWithin_eq_error {f : EvalFailure} (data : f.isDataFault = true)
    (nesting : Nat) (env : Environment) (e : Expr) :
    (evaluateWithin callDepth nesting env e).result = .error f ↔
      ∃ event, Occurs callDepth nesting env e event ∧ event.Fails callDepth f := by
  induction nesting generalizing env e with
  | zero =>
    constructor
    · intro failed
      cases failed
      cases data
    · rintro ⟨event, occurs, -⟩
      cases occurs
  | succ nesting ih =>
    -- An origin is one step of the way to the event; the rest of the way is shorter.
    rw [evaluateWithin, Evaluation.step_eq_error data]
    constructor
    · intro origin
      cases origin with
      | here happens failed => exact ⟨_, .here happens, failed⟩
      | inside enters failed =>
        obtain ⟨event, occurs, failed⟩ := (ih _ _).mp failed
        exact ⟨event, .inside enters occurs, failed⟩
    · rintro ⟨event, occurs, failed⟩
      cases occurs with
      | here happens => exact .here happens failed
      | inside enters occurs => exact .inside enters ((ih _ _).mpr ⟨event, occurs, failed⟩)

/-- Where only sound values are bound, a well-formed expression has a fault exactly if evaluating
it comes to an event that has the fault. -/
theorem Expr.evaluate_eq_fault {env : Environment} (bound : env.Binds Value.Sound)
    (wellFormed : e.isWellFormed = true) (limits : Limits) (g : Fault) :
    (e.evaluate limits env).result = .error (.fault g) ↔
      ∃ event, Occurs limits.callDepth limits.nesting env e event ∧
        event.Breaks limits.callDepth g := by
  simp only [← Event.fails_fault]
  constructor
  · intro failed
    have ordinary := evaluateWithin_regular _ _ env bound e wellFormed _ failed
    exact (evaluateWithin_eq_error (EvalFailure.isDataFault_of_ordinary ordinary) _ _ _).mp failed
  · rintro ⟨event, occurs, failed⟩
    have data : EvalFailure.isDataFault (.fault g) = true := by
      cases Event.fails_fault.mp failed with
      | factorial breaks => cases breaks <;> rfl
      | refusal => rfl
    exact (evaluateWithin_eq_error data _ _ _).mpr ⟨event, occurs, failed⟩

end PiecewiseLang
