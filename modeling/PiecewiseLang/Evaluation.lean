import PiecewiseLang.Environment
import PiecewiseLang.Evaluation.Traced
import PiecewiseLang.Limits
import PiecewiseLang.Value.Operations

/-! Evaluation of expressions. The body of a function is evaluated in a scope inside the
environment of the call, so it sees the caller's names. Two limits hold: the depth of the
environment a call may be made from, and the number of expressions that may be under
evaluation inside one another. -/
namespace PiecewiseLang

namespace Evaluation

section
variable (inner : Expr → Traced Value)

def all : List Expr → Traced (List Value)
  | [] => return []
  | e :: rest => do
    let value ← inner e
    return value :: (← all rest)

/-- Adds the values of expressions to a set; each is added before the next is evaluated. -/
def collect : Collection → List Expr → Traced Collection
  | collection, [] => return collection
  | collection, e :: rest => do
    let value ← inner e
    collect (← Traced.ofExcept (collection.add value)) rest

/-- The value of the first arm whose guard holds. -/
def arms : List (Expr × Expr) → Traced Value
  | [] => return .undefined
  | (value, guard) :: rest => do
    match ← inner guard with
    | .boolean true => inner value
    | .boolean false => arms rest
    | other => Traced.fail (.guardKind guard other.kind)

def cast (value domain : Expr) : Traced Value :=
  match domain with
  | .name name => do Traced.ofExcept ((← inner value).cast name)
  | _ => Traced.fail (.domainExpected domain)

def combination (operator : Operator) (left right : Option Expr) : Traced Value :=
  match operator.fixity, left, right with
  | .prefixed, _, some operand =>
    match operator.symbol.prefixOperation? with
    | some operation => do Traced.ofExcept (operation (← inner operand))
    | none => Traced.fail (.illegalOperator operator)
  | .postfixed, some operand, _ =>
    match operator.symbol.postfixOperation? with
    | some operation => do Traced.ofFailure (operation (← inner operand))
    | none => Traced.fail (.illegalOperator operator)
  | .infixed, some left, some right =>
    if operator.symbol = .cast then cast inner left right
    else match operator.symbol.infixOperation? with
      | some operation => do
        let l ← inner left
        let r ← inner right
        Traced.ofFailure (operation l r)
      | none => Traced.fail (.illegalOperator operator)
  | _, _, _ => Traced.fail (.illegalOperator operator)

/-- Fails when a function does not take as many arguments as it is given. -/
def requireArity (function : String) (expected given : Nat) : Traced Unit :=
  if given = expected then return () else Traced.fail (.arity function expected given)

def callBuiltin (function : Builtin) (arguments : List Expr) : Traced Value := do
  requireArity function.name function.parameters.length arguments.length
  match ← all inner arguments with
  | [argument] => Traced.ofExcept (function.apply argument)
  | values => Traced.fail (.arity function.name function.parameters.length values.length)

end

section
variable (evaluate : Environment → Expr → Traced Value) (callDepth : Int) (env : Environment)

/-- The scope of a call: the parameters, bound to the arguments in order. There have to be as
many of the ones as of the others, which is noticed after the last pair. -/
def callScope (parameters : List String) (values : List Value) : Traced Environment :=
  match env.child.declareAll (parameters.zip values) with
  | (_, some e) => Traced.fail e
  | (scope, none) =>
    if parameters.length = values.length then return scope
    else Traced.ofFailure (.error (.fault .unevenCall))

/-- Fails a call that is too deep. The error names the limit, and there is no such error for a
limit of too many digits. -/
def refuse (function : String) : Traced Value :=
  match Text.writeInteger callDepth with
  | some _ => Traced.fail (.callDepth callDepth function)
  | none => Traced.ofFailure (.error (.fault .overlongLimit))

/-- A call of a function of the program. The arguments are evaluated before the depth of
the call is looked at. -/
def callFunction (function : String) (parameters : List String) (body : Expr)
    (arguments : List Expr) : Traced Value := do
  requireArity function parameters.length arguments.length
  let values ← all (evaluate env) arguments
  if callDepth ≤ env.depth then refuse callDepth function
  else
    let scope ← callScope env parameters values
    Traced.call ⟨function, scope.depth⟩
    evaluate scope body

def call (callee : Expr) (arguments : List Expr) : Traced Value := do
  match ← evaluate env callee with
  | .builtin function => callBuiltin (evaluate env) function arguments
  | .function parameters body =>
    callFunction evaluate callDepth env callee.render parameters body arguments
  | other => Traced.fail (.notAFunction callee other.kind)

/-- One step of evaluation; `evaluate` is used for the expressions inside. -/
def step : Expr → Traced Value
  | .integer n => return .integer n
  | .real x => return .ofDouble x
  | .boolean b => return .boolean b
  | .undefined => return .undefined
  | .name name => Traced.ofExcept (env.lookup name)
  | .combination operator left right => combination (evaluate env) operator left right
  | .call callee arguments => call evaluate callDepth env callee arguments
  | .piecewise pieces => arms (evaluate env) pieces
  | .magnitude operand => do Traced.ofExcept (← evaluate env operand).magnitude
  | .set members => do Traced.ofFailure (← collect (evaluate env) .empty members).toValue

end

end Evaluation

/-- The value of an expression, with at most `nesting` expressions under evaluation. -/
def evaluateWithin (callDepth : Int) : (nesting : Nat) → Environment → Expr → Traced Value
  | 0, _, _ => Traced.fail .nestedTooDeeply
  | nesting + 1, env, e =>
    Evaluation.step (evaluateWithin callDepth nesting) callDepth env e

def Expr.evaluate (limits : Limits) (env : Environment) (e : Expr) : Traced Value :=
  evaluateWithin limits.callDepth limits.nesting env e

/-- Carries out a statement: its value and the environment after it. Only the value of an
expression is of interest; bindings are undefined. -/
def Statement.execute (limits : Limits) (env : Environment) :
    Statement → Traced (Value × Environment)
  | .assignment name e => do
    let value ← e.evaluate limits env
    return (.undefined, ← Traced.ofExcept (env.declare name value))
  | .declaration name parameters body => do
    return (.undefined, ← Traced.ofExcept (env.declare name (.function parameters body)))
  | .expression e => do return (← e.evaluate limits env, env)

/-- A tree of either sort, where the sort that is asked for may be the wrong one. -/
inductive Node where
  | expression (expression : Expr)
  | statement (statement : Statement)

namespace Node

def render : Node → String
  | .expression e => e.render
  | .statement s => s.render

/-- The value of an expression; a statement has none. -/
def evaluate (limits : Limits) (env : Environment) : Node → Traced Value
  | .expression e => e.evaluate limits env
  | .statement s => Traced.fail (.notAnExpression s)

/-- Carries out a statement; an expression is none. -/
def execute (limits : Limits) (env : Environment) : Node → Traced (Value × Environment)
  | .expression e => Traced.fail (.notAStatement e)
  | .statement s => s.execute limits env

end Node

end PiecewiseLang
