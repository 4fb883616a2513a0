import PiecewiseLang.Expr.Render
import PiecewiseLang.Fault
import PiecewiseLang.Value

/-! Evaluation errors: why an expression or a statement has no value. -/
namespace PiecewiseLang

namespace Expr

/-- The name of an expression's form. -/
def form : Expr → String
  | .name _ => "Identifier"
  | .integer _ => "IntegerLiteral"
  | .real _ => "RealLiteral"
  | .boolean _ => "BooleanLiteral"
  | .undefined => "UndefinedLiteral"
  | .combination .. => "Combination"
  | .call .. => "Call"
  | .piecewise _ => "PiecewiseBlock"
  | .magnitude _ => "AbsoluteValue"
  | .set _ => "SetLiteral"

end Expr

namespace Statement

/-- The name of a statement's form. -/
def form : Statement → String
  | .assignment .. => "Assignment"
  | .declaration .. => "FunctionDeclaration"
  | .expression _ => "ExpressionStatement"

end Statement

/-- The domains a value can be cast to, by name. -/
def domainNames : List String := ["N", "Z", "R", "B"]

inductive EvalError where
  | unboundName (name : String)
  | boundAlready (name : String)
  | operandKinds (symbol : Symbol) (kinds : List Kind)
  | setKinds (symbol : Symbol) (left right : Kind)
  | negativeFactorial (n : Int)
  | magnitudeKind (kind : Kind)
  | unknownDomain (name : String)
  | domainExpected (found : Expr)
  | castKind (kind : Kind) (domain : String)
  | illegalOperator (operator : Operator)
  | notAFunction (callee : Expr) (kind : Kind)
  | notAnExpression (statement : Statement)
  | notAStatement (expression : Expr)
  | arity (function : String) (expected given : Nat)
  | undefinedMember
  | memberKind (kind : Kind)
  | mixedMembers (first other : Kind)
  | membershipKind (element container : Kind)
  | builtinArgument (function : Builtin) (kind : Kind)
  | builtinMembers (function : Builtin) (kind : Option Kind)
  | guardKind (guard : Expr) (kind : Kind)
  | callDepth (limit : Int) (function : String)
  | nestedTooDeeply
deriving DecidableEq

namespace EvalError

/-- The families of evaluation errors. -/
inductive Family where
  | binding | operator | arity | valueKind | recursion
deriving DecidableEq, Repr

def family : EvalError → EvalError.Family
  | .unboundName _ | .boundAlready _ => .binding
  | .operandKinds .. | .setKinds .. | .negativeFactorial _ | .magnitudeKind _ => .operator
  | .unknownDomain _ | .domainExpected _ | .castKind .. | .illegalOperator _ => .operator
  | .notAFunction .. | .notAnExpression _ | .notAStatement _ => .operator
  | .arity .. => .arity
  | .undefinedMember | .memberKind _ | .mixedMembers .. | .membershipKind .. => .valueKind
  | .builtinArgument .. | .builtinMembers .. | .guardKind .. => .valueKind
  | .callDepth .. | .nestedTooDeeply => .recursion

def Family.label : EvalError.Family → String
  | .binding => "NameError"
  | .operator => "OperatorError"
  | .arity => "ArityError"
  | .valueKind => "TypeError"
  | .recursion => "RecursionError"

def kindLabel (kind : Option Kind) : String := (kind.map Kind.label).getD "None"

def text : EvalError → String
  | .unboundName name => "`" ++ name ++ "` is not defined."
  | .boundAlready name => "`" ++ name ++ "` is already defined in this scope."
  | .operandKinds symbol kinds =>
    "Operator `" ++ symbol.text ++ "` is not defined for " ++
      " and ".intercalate (kinds.map Kind.label) ++ "."
  | .setKinds symbol left right =>
    "Operator `" ++ symbol.text ++ "` needs sets of one kind, got " ++ left.label ++ " and " ++
      right.label ++ "."
  | .negativeFactorial n =>
    "Factorial is not defined for negative integers, got " ++ toString n ++ "."
  | .magnitudeKind kind => "Absolute value is not defined for " ++ kind.label ++ "."
  | .unknownDomain name =>
    "Unknown cast domain `" ++ name ++ "`, expected one of " ++ ", ".intercalate domainNames ++ "."
  | .domainExpected found =>
    "Expected a domain name (" ++ ", ".intercalate domainNames ++ ") after `as`, got `" ++
      found.render ++ "`."
  | .castKind kind domain => "Cannot cast a " ++ kind.label ++ " value to " ++ domain ++ "."
  | .illegalOperator operator => operator.illegalMessage
  | .notAFunction callee kind =>
    "`" ++ callee.render ++ "` is a " ++ kind.label ++ " value, not a function."
  | .notAnExpression statement => "Unknown expression type: " ++ statement.form
  | .notAStatement expression => "Unknown statement type: " ++ expression.form
  | .arity function expected given =>
    "`" ++ function ++ "` takes " ++ toString expected ++ " argument(s), got " ++
      toString given ++ "."
  | .undefinedMember => "A set cannot contain `undefined`."
  | .memberKind kind => "A " ++ kind.label ++ " value cannot be a set member."
  | .mixedMembers first other =>
    "Set members must share one kind, got " ++ first.label ++ " and " ++ other.label ++ "."
  | .membershipKind element container =>
    "Cannot test a " ++ element.label ++ " value for membership in a set of " ++
      container.label ++ "."
  | .builtinArgument function kind =>
    "`" ++ function.name ++ "` expects a Set, got " ++ kind.label ++ "."
  | .builtinMembers function kind =>
    "`" ++ function.name ++ "` expects a set of numbers, got a set of " ++ kindLabel kind ++ "."
  | .guardKind guard kind =>
    "A piecewise guard must be a Boolean, `" ++ guard.render ++ "` is " ++ kind.label ++ "."
  | .callDepth limit function =>
    "Maximum call depth of " ++ toString limit ++ " exceeded in `" ++ function ++ "`."
  | .nestedTooDeeply => "Evaluation nested too deeply for the host interpreter."

/-- The error as it is reported. -/
def message (e : EvalError) : String := e.family.label ++ ": " ++ e.text

end EvalError

/-- How evaluation ends when it does not succeed. -/
inductive EvalFailure where
  | error (error : EvalError)
  | fault (fault : Fault)
deriving DecidableEq

/-- A computation that can fail with errors of the language only. -/
def EvalFailure.ofExcept (result : Except EvalError α) : Except EvalFailure α :=
  result.mapError .error

end PiecewiseLang
