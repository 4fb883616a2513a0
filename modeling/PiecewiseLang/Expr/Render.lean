import PiecewiseLang.Binary64.Shortest
import PiecewiseLang.Expr

/-! The written form of trees. Every combination is put in parentheses, so the form shows
the whole structure and does not lean on binding strengths. -/
namespace PiecewiseLang

def Operator.renderPrefixed (operator : Operator) (operand : String) : String :=
  "(" ++ operator.symbol.text ++ (if operator.symbol.isWord then " " else "") ++ operand ++ ")"

namespace Expr

mutual

def render : Expr → String
  | .name n => n
  | .integer value => toString value
  | .real value => value.write
  | .boolean value => if value then "true" else "false"
  | .undefined => "undefined"
  | .combination operator left right =>
    match operator.fixity with
    | .prefixed => operator.renderPrefixed (renderOperand right)
    | .postfixed => "(" ++ renderOperand left ++ operator.symbol.text ++ ")"
    | .infixed =>
      "(" ++ renderOperand left ++ " " ++ operator.symbol.text ++ " " ++ renderOperand right ++ ")"
  | .call callee arguments => callee.render ++ "(" ++ ", ".intercalate (renderEach arguments) ++ ")"
  | .piecewise arms => "\x7b " ++ " ".intercalate (renderArms arms) ++ " \x7d"
  | .magnitude operand => "|" ++ operand.render ++ "|"
  | .set members => "\x7b" ++ ", ".intercalate (renderEach members) ++ "\x7d"

/-- A missing operand is written as a word of its own. -/
def renderOperand : Option Expr → String
  | none => "None"
  | some e => e.render

/-- The written forms of expressions, in order. -/
def renderEach : List Expr → List String
  | [] => []
  | e :: rest => e.render :: renderEach rest

/-- The written forms of arms; an arm without a condition has the guard `true`. -/
def renderArms : List (Expr × Expr) → List String
  | [] => []
  | (value, guard) :: rest => (value.render ++ " if " ++ guard.render ++ ";") :: renderArms rest

end

end Expr

/-- A parameter list between parentheses. -/
def renderParameters (parameters : List String) : String :=
  "(" ++ ", ".intercalate parameters ++ ")"

def Statement.render : Statement → String
  | .assignment name e => "let " ++ name ++ " = " ++ e.render ++ ";"
  | .declaration name parameters body =>
    "fn " ++ name ++ renderParameters parameters ++ " = " ++ body.render ++ ";"
  | .expression e => e.render ++ ";"

end PiecewiseLang
