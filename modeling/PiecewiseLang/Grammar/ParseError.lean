import PiecewiseLang.Fault
import PiecewiseLang.Operator
import PiecewiseLang.Token

/-! Parse errors: why a token cannot stand where it does, and where that is. -/
namespace PiecewiseLang

/-- What the grammar asks for at the places where it leaves no choice, or only a small one. -/
inductive Expectation where
  | endOfExpression
  | assignedName
  | assignSign (name : String)
  | endOfAssignment (name : String)
  | functionName
  | openParameters (function : String)
  | parameter (function : String)
  | parameterSeparator (function : String)
  | bodySign (function : String)
  | endOfDeclaration (function : String)
  | closeParen
  | closeBar
  | argumentSeparator
  | memberSeparator
  /-- After the first expression of a brace, which was opened at a position. -/
  | braceContent (opening : Int)
  | armCondition
  | endOfArm
deriving DecidableEq, Repr

namespace Expectation

def text : Expectation → String
  | .endOfExpression => "Expected `;` after expression"
  | .assignedName => "Expected a name after `let`"
  | .assignSign name => "Expected `=` after `let " ++ name ++ "`"
  | .endOfAssignment name => "Expected `;` to end the assignment to `" ++ name ++ "`"
  | .functionName => "Expected a function name after `fn`"
  | .openParameters function => "Expected `(` after `fn " ++ function ++ "`"
  | .parameter function => "Expected a parameter name in `" ++ function ++ "`"
  | .parameterSeparator function =>
    "Expected `,` or `)` in the parameters of `" ++ function ++ "`"
  | .bodySign function => "Expected `=` after the parameters of `" ++ function ++ "`"
  | .endOfDeclaration function => "Expected `;` to end the declaration of `" ++ function ++ "`"
  | .closeParen => "Expected `)` to close `(`"
  | .closeBar => "Expected `|` to close the absolute value"
  | .argumentSeparator => "Expected `,` or `)` in call arguments"
  | .memberSeparator => "Expected `,` or `\x7d` in set literal"
  | .braceContent opening =>
    "Expected `if`, `else`, `,` or `\x7d` in the block opened at " ++ toString opening
  | .armCondition => "Expected `if` or `else` after a piecewise value"
  | .endOfArm => "Expected `;` after a piecewise arm"

end Expectation

namespace ParseError

inductive Cause where
  | expected (what : Expectation) (found : Token)
  | noExpression (found : Token)
  /-- A token that neither continues an expression nor may end one. -/
  | unexpectedAfter (found : Token)
  /-- A token after what should have been the whole text. -/
  | trailing (found : Token)
  | illegalOperator (operator : Operator)
  | duplicateParameter (parameter function : String)
  | secondElse
  | nestedTooDeeply
deriving DecidableEq, Repr

namespace Cause

def text : Cause → String
  | .expected what found => what.text ++ ", got " ++ found.describe ++ "."
  | .noExpression found => "Unexpected " ++ found.describe ++ ", expected an expression."
  | .unexpectedAfter found => "Unexpected " ++ found.describe ++ " after an expression."
  | .trailing found => "Unexpected " ++ found.describe ++ " after expression."
  | .illegalOperator operator => operator.illegalMessage
  | .duplicateParameter parameter function =>
    "Duplicate parameter `" ++ parameter ++ "` in `" ++ function ++ "`."
  | .secondElse => "A piecewise block can only have one `else` arm."
  | .nestedTooDeeply => "Expression is nested too deeply."

end Cause

end ParseError

/-- A cause with the position of the offending token. An operator that is looked up by itself
has no position. -/
structure ParseError where
  cause : ParseError.Cause
  position : Option Int
deriving DecidableEq, Repr

def ParseError.message (e : ParseError) : String := "SyntaxError: " ++ e.cause.text

/-- How parsing ends when it does not succeed. -/
inductive ParseFailure where
  | error (error : ParseError)
  | fault (fault : Fault)
deriving DecidableEq, Repr

end PiecewiseLang
