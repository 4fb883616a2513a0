import Mathlib.Data.List.Basic
import PiecewiseLang.Proofs.Evaluation.Keeping
import PiecewiseLang.Proofs.Value.Failures

/-! How deeply evaluation nests. Inside one scope the expressions under evaluation are parts of
one another, so there are no more of them than the expression has levels. A call opens a scope
one deeper, and the body it enters is that of a function bound before. With `H` levels in the
highest of these bodies, every scope still allowed asks for `H` more expressions at most. -/
namespace PiecewiseLang

namespace Expr

theorem height_pos (e : Expr) : 0 < e.height := by
  cases e <;> simp [height]

theorem height_le_allHeight (member : e ∈ es) : e.height ≤ allHeight es := by
  induction es with
  | nil => cases member
  | cons first es ih =>
    rw [allHeight]
    rcases List.mem_cons.mp member with rfl | member
    · exact Nat.le_max_left _ _
    · exact Nat.le_trans (ih member) (Nat.le_max_right _ _)

theorem heights_le_armsHeight {value guard : Expr} (member : (value, guard) ∈ pieces) :
    value.height ≤ armsHeight pieces ∧ guard.height ≤ armsHeight pieces := by
  induction pieces with
  | nil => cases member
  | cons first pieces ih =>
    obtain ⟨v, g⟩ := first
    simp only [armsHeight]
    rcases List.mem_cons.mp member with same | member
    · cases same
      omega
    · have rest := ih member
      omega

end Expr

namespace Value

/-- The body of a function of the program. -/
def body? : Value → Option Expr
  | .function _ body => some body
  | _ => none

mutual

/-- The bodies of all functions in a value. -/
def bodies : Value → List Expr
  | .function _ body => [body]
  | .set _ members => memberBodies members
  | _ => []

def memberBodies : List Value → List Expr
  | [] => []
  | v :: rest => v.bodies ++ memberBodies rest

end

theorem mem_memberBodies : b ∈ memberBodies members ↔ ∃ m ∈ members, b ∈ m.bodies := by
  induction members with
  | nil => simp [memberBodies]
  | cons m members ih => simp [memberBodies, ih]

theorem holds_of_bodies {P : Expr → Prop} :
    (v : Value) → (∀ b ∈ v.bodies, P b) → v.Holds fun _ body => P body
  | .integer _, _ => .integer
  | .real _, _ => .real
  | .boolean _, _ => .boolean
  | .undefined, _ => .undefined
  | .builtin _, _ => .builtin
  | .function _ body, all => .function (all body (by simp [bodies]))
  | .set _ members, all => .set fun m member => holds_of_bodies m fun b inside =>
      all b (by rw [bodies]; exact mem_memberBodies.mpr ⟨m, member, inside⟩)

/-- Canonical sets have no functions in them. -/
theorem Canonical.bodies_eq (canonical : Canonical v) : v.bodies = v.body?.toList := by
  induction canonical with
  | set members isSet ih =>
    rw [bodies]
    apply List.eq_nil_iff_forall_not_mem.mpr
    intro b inside
    obtain ⟨m, member, inside⟩ := mem_memberBodies.mp inside
    rw [ih m member] at inside
    have allowed := (isSet.kinds m member).2
    cases m with
    | function parameters body => cases allowed
    | _ => cases inside
  | _ => simp [bodies, body?]

end Value

namespace Environment

/-- The bodies of all functions bound in an environment. -/
def bodies (env : Environment) : List Expr :=
  env.scopes.flatMap fun scope => scope.flatMap fun binding => binding.2.bodies

/-- How many expressions can be under evaluation inside one another, if one is evaluated here. -/
def nestingBound (env : Environment) (callDepth : Int) (e : Expr) : Nat :=
  e.height + Expr.allHeight env.bodies * (callDepth - env.depth).toNat

/-- No function that is bound has a body of more than `height` levels. -/
def Low (height : Nat) (env : Environment) : Prop :=
  env.Binds (Value.Holds fun _ body => body.height ≤ height)

theorem low_bodies (env : Environment) : env.Low (Expr.allHeight env.bodies) := by
  intro scope member binding inScope
  apply Value.holds_of_bodies
  intro b inside
  apply Expr.height_le_allHeight
  exact List.mem_flatMap.mpr ⟨scope, member, List.mem_flatMap.mpr ⟨binding, inScope, inside⟩⟩

theorem bodies_of_canonical {env : Environment} (bound : env.Binds Value.Canonical) :
    env.bodies = env.scopes.flatten.filterMap fun binding => binding.2.body? := by
  rw [bodies, List.filterMap_flatten, ← List.flatMap_def]
  apply List.flatMap_congr
  intro scope member
  rw [List.filterMap_eq_flatMap_toList]
  apply List.flatMap_congr
  intro binding inScope
  exact (bound scope member binding inScope).bodies_eq

theorem declare_outer {env : Environment} (name : String) (value : Value) :
    Gives (fun next => next.outer = env.outer) (env.declare name value) := by
  unfold declare
  split
  · exact .error _
  · exact .ok rfl

theorem declareAll_outer (env : Environment) (bindings : Bindings) :
    (env.declareAll bindings).1.outer = env.outer := by
  induction bindings generalizing env with
  | nil => rfl
  | cons binding bindings ih =>
    rw [declareAll]
    split
    case h_1 next declared => exact (ih next).trans (declare_outer _ _ next declared)
    case h_2 => rfl

/-- The only thing that can be wrong with a binding is that there is one already. -/
theorem declareAll_error {env : Environment} {bindings : Bindings}
    (failed : (env.declareAll bindings).2 = some e) : ∃ name, e = .boundAlready name := by
  induction bindings generalizing env with
  | nil => cases failed
  | cons binding bindings ih =>
    rw [declareAll] at failed
    split at failed
    case h_1 => exact ih failed
    case h_2 error declared =>
      cases failed
      unfold declare at declared
      split at declared
      · cases declared
        exact ⟨_, rfl⟩
      · cases declared

end Environment

/-- Failures other than the one of too many expressions under evaluation. -/
def EvalFailure.Settled (f : EvalFailure) : Prop := f ≠ .error .nestedTooDeeply

open EvalFailure (Operational)

theorem Fails.settled {x : Except EvalFailure α} (given : Fails (Operational unranked) x) :
    Fails EvalFailure.Settled x := by
  intro f failed
  rintro rfl
  cases given _ failed

namespace Traced

variable {α β : Type} {fits : Prop} {callDepth : Int}

/-- Two computations that make no call deeper than allowed. If there is room enough, they are
the same, and it is not for want of room that they fail. -/
structure Settled (fits : Prop) (callDepth : Int) (x y : Traced α) : Prop where
  calls : ∀ record ∈ x.calls, (record.depth : Int) ≤ callDepth
  same : fits → x = y
  ends : fits → Fails EvalFailure.Settled x.result

namespace Settled

theorem pure (a : α) : Settled fits callDepth (Pure.pure a) (Pure.pure a) :=
  ⟨nofun, fun _ => rfl, fun _ => .ok a⟩

theorem ofFailure {x : Except EvalFailure α} (given : Fails EvalFailure.Settled x) :
    Settled fits callDepth (ofFailure x) (ofFailure x) :=
  ⟨nofun, fun _ => rfl, fun _ => given⟩

theorem fail {e : EvalError} (other : e ≠ .nestedTooDeeply) :
    Settled fits callDepth (fail e : Traced α) (Traced.fail e) :=
  ofFailure (.error fun same => other (EvalFailure.error.inj same))

theorem refuse (limit : Int) (function : String) :
    Settled fits callDepth (Evaluation.refuse limit function) (Evaluation.refuse limit function) := by
  obtain ⟨-, refused⟩ | ⟨-, refused⟩ := Evaluation.refuse_cases limit function
  · rw [refused]
    exact fail nofun
  · rw [refused]
    exact ofFailure (.error nofun)

theorem ofExcept {x : Except EvalError α} (given : Fails (fun e => e.isOperational = true) x) :
    Settled fits callDepth (ofExcept x) (Traced.ofExcept x) := by
  cases x with
  | ok a => exact pure a
  | error e =>
    apply fail
    rintro rfl
    cases given _ rfl

theorem call {record : CallRecord} (allowed : (record.depth : Int) ≤ callDepth) :
    Settled fits callDepth (call record) (Traced.call record) := by
  refine ⟨?_, fun _ => rfl, fun _ => .ok ()⟩
  intro other member
  cases List.mem_singleton.mp member
  exact allowed

theorem bind {x y : Traced α} {next next' : α → Traced β} (first : Settled fits callDepth x y)
    (rest : ∀ a, x.result = .ok a → Settled fits callDepth (next a) (next' a)) :
    Settled fits callDepth (x >>= next) (y >>= next') := by
  obtain ⟨calls, same, ends⟩ := first
  obtain ⟨made, result⟩ := x
  cases result with
  | error f =>
    refine ⟨calls, ?_, fun room => .error (ends room f rfl)⟩
    intro room
    rw [← same room]
    rfl
  | ok a =>
    have after := rest a rfl
    refine ⟨?_, ?_, fun room => after.ends room⟩
    · intro record member
      rcases List.mem_append.mp member with member | member
      · exact calls record member
      · exact after.calls record member
    · intro room
      rw [← same room]
      show Traced.bind _ _ = Traced.bind _ _
      simp only [Traced.bind, after.same room]

theorem weaken {x y : Traced α} {room : Prop} (settled : Settled room callDepth x y)
    (enough : fits → room) : Settled fits callDepth x y :=
  ⟨settled.calls, fun given => settled.same (enough given),
    fun given => settled.ends (enough given)⟩

end Settled

end Traced

namespace Evaluation

open Traced (Settled)

section
variable {inner inner' : Expr → Traced Value} {fits : Prop} {callDepth : Int}

theorem lookup_settled (env : Environment) (name : String) :
    Settled fits callDepth (.ofExcept (env.lookup name)) (.ofExcept (env.lookup name)) := by
  unfold Environment.lookup
  split
  · exact .pure _
  · exact .fail nofun

theorem all_settled {es : List Expr}
    (given : ∀ e ∈ es, Settled fits callDepth (inner e) (inner' e)) :
    Settled fits callDepth (all inner es) (all inner' es) := by
  induction es with
  | nil => exact .pure _
  | cons e es ih =>
    obtain ⟨first, rest⟩ := List.forall_mem_cons.mp given
    exact first.bind fun _ _ => (ih rest).bind fun _ _ => .pure _

theorem collect_settled {es : List Expr}
    (given : ∀ e ∈ es, Settled fits callDepth (inner e) (inner' e)) (c : Collection) :
    Settled fits callDepth (collect inner c es) (collect inner' c es) := by
  induction es generalizing c with
  | nil => exact .pure _
  | cons e es ih =>
    obtain ⟨first, rest⟩ := List.forall_mem_cons.mp given
    refine first.bind fun _ _ => ?_
    exact (Settled.ofExcept (Collection.add_fails _ _)).bind fun c _ => ih rest c

theorem arms_settled {pieces : List (Expr × Expr)}
    (given : ∀ piece ∈ pieces, Settled fits callDepth (inner piece.1) (inner' piece.1) ∧
      Settled fits callDepth (inner piece.2) (inner' piece.2)) :
    Settled fits callDepth (arms inner pieces) (arms inner' pieces) := by
  induction pieces with
  | nil => exact .pure _
  | cons piece pieces ih =>
    obtain ⟨⟨value, guard⟩, rest⟩ := List.forall_mem_cons.mp given
    refine guard.bind fun condition _ => ?_
    split
    · exact value
    · exact ih rest
    · exact .fail nofun

theorem cast_settled {value : Expr} (given : Settled fits callDepth (inner value) (inner' value))
    (domain : Expr) : Settled fits callDepth (cast inner value domain) (cast inner' value domain) := by
  unfold cast
  split
  · exact given.bind fun v _ => .ofExcept (Value.cast_fails v _)
  · exact .fail nofun

theorem combination_settled (operator : Operator)
    (first : ∀ e ∈ left, Settled fits callDepth (inner e) (inner' e))
    (second : ∀ e ∈ right, Settled fits callDepth (inner e) (inner' e)) :
    Settled fits callDepth (combination inner operator left right)
      (combination inner' operator left right) := by
  unfold combination
  split
  · split
    case h_1 found =>
      exact (second _ rfl).bind fun v _ => .ofExcept (Symbol.prefixOperation_fails found v)
    case h_2 => exact .fail nofun
  · split
    case h_1 found =>
      refine (first _ rfl).bind fun v _ => .ofFailure ?_
      exact (Symbol.postfixOperation_fails found v).settled
    case h_2 => exact .fail nofun
  · split
    · exact cast_settled (first _ rfl) _
    · split
      case h_1 found =>
        refine (first _ rfl).bind fun l _ => (second _ rfl).bind fun r _ => .ofFailure ?_
        exact (Symbol.infixOperation_fails found l r).settled
      case h_2 => exact .fail nofun
  · exact .fail nofun

theorem requireArity_settled (function : String) (expected given : Nat) :
    Settled fits callDepth (requireArity function expected given)
      (requireArity function expected given) := by
  unfold requireArity
  split
  · exact .pure _
  · exact .fail nofun

theorem callBuiltin_settled (function : Builtin) {arguments : List Expr}
    (given : ∀ e ∈ arguments, Settled fits callDepth (inner e) (inner' e)) :
    Settled fits callDepth (callBuiltin inner function arguments)
      (callBuiltin inner' function arguments) := by
  refine (requireArity_settled _ _ _).bind fun _ _ => (all_settled given).bind fun values _ => ?_
  split
  · exact .ofExcept (Builtin.apply_fails function _)
  · exact .fail nofun

end

theorem callScope_settled (env : Environment) (parameters : List String) (values : List Value) :
    Settled fits callDepth (callScope env parameters values) (callScope env parameters values) := by
  unfold callScope
  split
  case h_1 failed =>
    obtain ⟨name, rfl⟩ := Environment.declareAll_error (congrArg Prod.snd failed)
    exact .fail nofun
  case h_2 =>
    split
    · exact .pure _
    · exact .ofFailure (.error nofun)

/-- The scope of a call is one deeper than the environment of the call. -/
theorem callScope_depth (env : Environment) (parameters : List String) (values : List Value) :
    Gives (fun scope => scope.depth = env.depth + 1) (callScope env parameters values).result := by
  unfold callScope
  split
  · exact .error _
  case h_2 scope declared =>
    split
    · have outer := env.child.declareAll_outer (parameters.zip values)
      rw [declared] at outer
      exact .ok (congrArg List.length outer)
    · exact .error _

/-- There is room to evaluate an expression with `nesting` expressions inside one another. -/
structure Fits (callDepth : Int) (height nesting : Nat) (env : Environment) (e : Expr) : Prop where
  low : env.Low height
  room : e.height + height * (callDepth - env.depth).toNat ≤ nesting

namespace Fits

variable {callDepth : Int} {height nesting : Nat} {env scope : Environment}
  {e inner entered : Expr}

/-- There is room for the parts of an expression. -/
theorem part (fits : Fits callDepth height (nesting + 1) env e) (lower : inner.height < e.height) :
    Fits callDepth height nesting env inner := by
  refine ⟨fits.low, ?_⟩
  have room := fits.room
  omega

/-- A call trades one of the scopes that are left for the levels of a body. -/
theorem body (fits : Fits callDepth height (nesting + 1) env e) (low : scope.Low height)
    (deeper : scope.depth = env.depth + 1) (allowed : ¬callDepth ≤ env.depth)
    (bounded : entered.height ≤ height) : Fits callDepth height nesting scope entered := by
  refine ⟨low, ?_⟩
  have room := fits.room
  have levels := e.height_pos
  have left : (callDepth - env.depth).toNat = (callDepth - scope.depth).toNat + 1 := by omega
  rw [left, Nat.mul_succ] at room
  omega

end Fits

section
variable {evaluate evaluate' : Environment → Expr → Traced Value} {callDepth : Int}
  {height nesting : Nat}
  (keeps : Keeps (Value.Holds fun _ body => body.height ≤ height) evaluate)
  (given : ∀ env e, Settled (Fits callDepth height nesting env e) callDepth (evaluate env e)
    (evaluate' env e))

include keeps given

theorem callFunction_settled {env : Environment} {fits : Prop} (function : String)
    (parameters : List String) (arguments : List Expr)
    (settled : ∀ e ∈ arguments, Settled fits callDepth (evaluate env e) (evaluate' env e))
    (low : fits → env.Low height)
    (room : ∀ scope : Environment, fits → scope.Low height → scope.depth = env.depth + 1 →
      ¬callDepth ≤ env.depth → Fits callDepth height nesting scope body) :
    Settled fits callDepth
      (callFunction evaluate callDepth env function parameters body arguments)
      (callFunction evaluate' callDepth env function parameters body arguments) := by
  refine (requireArity_settled _ _ _).bind fun _ _ => ?_
  refine (all_settled settled).bind fun values evaluated => ?_
  split
  · exact .refuse _ _
  case isFalse allowed =>
    refine (callScope_settled env parameters values).bind fun scope opened => ?_
    have deeper := callScope_depth env parameters values scope opened
    refine (Settled.call ?_).bind fun _ _ => (given scope body).weaken fun enough => ?_
    · show (scope.depth : Int) ≤ callDepth
      omega
    · have holds := all_keeps (keeps env (low enough)) arguments values evaluated
      exact room scope enough (callScope_keeps (low enough) parameters holds scope opened) deeper
        allowed

theorem call_settled (env : Environment) (callee : Expr) (arguments : List Expr) :
    Settled (Fits callDepth height (nesting + 1) env (.call callee arguments)) callDepth
      (call evaluate callDepth env callee arguments)
      (call evaluate' callDepth env callee arguments) := by
  have parts : ∀ e ∈ arguments, Settled (Fits callDepth height (nesting + 1) env
      (.call callee arguments)) callDepth (evaluate env e) (evaluate' env e) := by
    intro e member
    refine (given env e).weaken fun fits => fits.part ?_
    have bounded := Expr.height_le_allHeight member
    rw [Expr.height]
    omega
  have first : Settled (Fits callDepth height (nesting + 1) env (.call callee arguments)) callDepth
      (evaluate env callee) (evaluate' env callee) := by
    refine (given env callee).weaken fun fits => fits.part ?_
    rw [Expr.height]
    omega
  refine first.bind fun function evaluated => ?_
  split
  · exact callBuiltin_settled _ parts
  case h_2 parameters body =>
    refine callFunction_settled keeps given _ parameters arguments parts (fun fits => fits.low) ?_
    intro scope fits low deeper allowed
    have holds := keeps env fits.low callee _ evaluated
    cases holds with
    | function bounded => exact fits.body low deeper allowed bounded
  · exact .fail nofun

theorem step_settled (env : Environment) (e : Expr) :
    Settled (Fits callDepth height (nesting + 1) env e) callDepth
      (step evaluate callDepth env e) (step evaluate' callDepth env e) := by
  cases e with
  | integer n => exact .pure _
  | real x => exact .pure _
  | boolean b => exact .pure _
  | undefined => exact .pure _
  | name n => exact lookup_settled env n
  | combination operator left right =>
    apply combination_settled
    · rintro e rfl
      refine (given env e).weaken fun fits => fits.part ?_
      simp only [Expr.height, Expr.operandHeight]
      omega
    · rintro e rfl
      refine (given env e).weaken fun fits => fits.part ?_
      simp only [Expr.height, Expr.operandHeight]
      omega
  | call callee arguments => exact call_settled keeps given env callee arguments
  | piecewise pieces =>
    apply arms_settled
    rintro ⟨value, guard⟩ member
    obtain ⟨first, second⟩ := Expr.heights_le_armsHeight member
    constructor
    · refine (given env value).weaken fun fits => fits.part ?_
      rw [Expr.height]
      exact Nat.lt_succ_of_le first
    · refine (given env guard).weaken fun fits => fits.part ?_
      rw [Expr.height]
      exact Nat.lt_succ_of_le second
  | magnitude operand =>
    have inner : Settled (Fits callDepth height (nesting + 1) env (.magnitude operand)) callDepth
        (evaluate env operand) (evaluate' env operand) :=
      (given env operand).weaken fun fits => fits.part (by simp [Expr.height])
    exact inner.bind fun v _ => .ofExcept (Value.magnitude_fails v)
  | set members =>
    have parts : ∀ e ∈ members, Settled (Fits callDepth height (nesting + 1) env
        (.set members)) callDepth (evaluate env e) (evaluate' env e) := by
      intro e member
      refine (given env e).weaken fun fits => fits.part ?_
      rw [Expr.height]
      exact Nat.lt_succ_of_le (Expr.height_le_allHeight member)
    refine (collect_settled parts .empty).bind fun c _ => .ofFailure ?_
    exact (Collection.toValue_fails c).settled

end

end Evaluation

/-- Where there is room, more room changes nothing. -/
theorem evaluateWithin_settled (callDepth : Int) (height : Nat) {nesting more : Nat}
    (le : nesting ≤ more) (env : Environment) (e : Expr) :
    Traced.Settled (Evaluation.Fits callDepth height nesting env e) callDepth
      (evaluateWithin callDepth nesting env e) (evaluateWithin callDepth more env e) := by
  induction nesting generalizing more env e with
  | zero =>
    have none : ¬Evaluation.Fits callDepth height 0 env e := by
      intro fits
      have room := fits.room
      have levels := e.height_pos
      omega
    exact ⟨nofun, fun fits => absurd fits none, fun fits => absurd fits none⟩
  | succ nesting ih =>
    obtain ⟨more, rfl⟩ : ∃ less, more = less + 1 := ⟨more - 1, by omega⟩
    have keeps := evaluateWithin_keeps (Value.holds_closed fun _ body => body.height ≤ height)
      callDepth nesting
    exact Evaluation.step_settled keeps (fun env e => ih (Nat.le_of_succ_le_succ le) env e) env e

/-- Evaluation nests no deeper than the levels of the expression and, for every scope that may
still be opened, those of the highest body that is bound: with that much room or more it comes
to the same end, which is not for want of room. However much room there is, no body is entered
in a scope deeper than allowed. Where values are canonical, the bodies bound are those of the
functions bound. The room is counted in evaluations inside one another and in nothing else: sets
that have sets as members are built, compared and written by recursion of its own, as deep as
the values are, and no room is set aside for that. -/
theorem nesting_within_bound (callDepth : Int) (rendering : Nat) (env : Environment) (e : Expr) :
    (∀ nesting ≥ env.nestingBound callDepth e,
      e.evaluate ⟨callDepth, nesting, rendering⟩ env =
        e.evaluate ⟨callDepth, env.nestingBound callDepth e, rendering⟩ env ∧
      (e.evaluate ⟨callDepth, nesting, rendering⟩ env).result ≠ .error (.error .nestedTooDeeply)) ∧
    (∀ nesting, ∀ record ∈ (e.evaluate ⟨callDepth, nesting, rendering⟩ env).calls,
      (record.depth : Int) ≤ callDepth) ∧
    (env.Binds Value.Canonical →
      env.bodies = env.scopes.flatten.filterMap fun binding => binding.2.body?) := by
  refine ⟨?_, ?_, Environment.bodies_of_canonical⟩
  · intro nesting enough
    have fits : Evaluation.Fits callDepth (Expr.allHeight env.bodies)
        (env.nestingBound callDepth e) env e := ⟨env.low_bodies, Nat.le_refl _⟩
    have settled := evaluateWithin_settled callDepth (Expr.allHeight env.bodies) enough env e
    have same := settled.same fits
    refine ⟨same.symm, ?_⟩
    intro nested
    refine settled.ends fits _ ?_ rfl
    rw [same]
    exact nested
  · intro nesting
    exact (evaluateWithin_settled callDepth 0 (Nat.le_refl nesting) env e).calls

/-- A scope with a function that calls itself without end. -/
def endlessSample : Environment :=
  ⟨[("f", .function ["x"] (.call (.name "f") [.set [.name "x"]]))], []⟩

theorem nesting_within_bound_sample :
    endlessSample.nestingBound 3 (.call (.name "f") [.integer 1]) = 11 ∧
    (Expr.evaluate ⟨3, 1000, 20⟩ endlessSample (.call (.name "f") [.integer 1])).result =
      .error (.error (.callDepth 3 "f")) ∧
    endlessSample.bodies = [.call (.name "f") [.set [.name "x"]]] := by
  have bound : endlessSample.nestingBound 3 (.call (.name "f") [.integer 1]) = 11 := by
    decide +kernel
  have canonical : endlessSample.Binds Value.Canonical := by
    intro scope member binding inScope
    cases List.mem_singleton.mp member
    cases List.mem_singleton.mp inScope
    exact .function
  obtain ⟨ends, -, bodies⟩ :=
    nesting_within_bound 3 20 endlessSample (.call (.name "f") [.integer 1])
  refine ⟨bound, ?_, bodies canonical⟩
  rw [(ends 1000 (by rw [bound]; decide)).1, bound]
  decide +kernel

end PiecewiseLang
