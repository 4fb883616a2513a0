import PiecewiseLang.Value.Arithmetic
import PiecewiseLang.Value.Cast
import PiecewiseLang.Value.Comparison

/-! What each operator computes from the values of its operands. Casts are not among them:
what stands to the right of a cast is the name of a domain and has no value. -/
namespace PiecewiseLang.Symbol

/-- An operation that can fail with errors of the language only. -/
def plain (operation : Value → Value → Except EvalError Value) (left right : Value) :
    Except EvalFailure Value := EvalFailure.ofExcept (operation left right)

def infixOperation? : Symbol → Option (Value → Value → Except EvalFailure Value)
  | .add => some (plain Value.add)
  | .sub => some (plain Value.subtract)
  | .mul => some (plain Value.multiply)
  | .div => some (plain Value.divide)
  | .mod => some (plain Value.remainder)
  | .pow => some (plain Value.power)
  | .plusMinus | .minusPlus => some Value.plusMinus
  | .eq => some (Value.compare .eq)
  | .ne => some (Value.compare .ne)
  | .lt => some (Value.compare .lt)
  | .le => some (Value.compare .le)
  | .gt => some (Value.compare .gt)
  | .ge => some (Value.compare .ge)
  | .and => some (Value.connect .and)
  | .or => some (Value.connect .or)
  | .xor => some (Value.connect .xor)
  | .coalesce => some fun left right => .ok (left.coalesce right)
  | .mem => some (plain Value.contains)
  | .union => some (Value.setAlgebra .union)
  | .intersection => some (Value.setAlgebra .intersection)
  | .difference => some (Value.setAlgebra .difference)
  | .symmetricDifference => some (Value.setAlgebra .symmetricDifference)
  | .not | .cast | .factorial | .call => none

def prefixOperation? : Symbol → Option (Value → Except EvalError Value)
  | .sub => some Value.negate
  | .not => some Value.not
  | _ => none

def postfixOperation? : Symbol → Option (Value → Except EvalFailure Value)
  | .factorial => some Value.factorial
  | _ => none

end PiecewiseLang.Symbol
