import PiecewiseLang.Expr.Render
import PiecewiseLang.Fault
import PiecewiseLang.Value

/-! The written form of values. It exists unless an integer in it has too many digits. Where a
limit holds on how many written forms may be open inside one another, a value of more levels
than that is not written either. -/
namespace PiecewiseLang

namespace Builtin

def display (function : Builtin) : String :=
  "<builtin " ++ function.name ++ renderParameters function.parameters ++ ">"

end Builtin

namespace Value

mutual

def display? : Value → Option String
  | .integer n => Text.writeInteger n
  | .real x => some x.write
  | .boolean b => some (if b then "true" else "false")
  | .undefined => some "undefined"
  | .function parameters body =>
    some ("fn" ++ renderParameters parameters ++ " = " ++ body.render ++ ";")
  | .builtin f => some f.display
  | .set _ members => (displayEach? members).map fun texts =>
    "\x7b" ++ ", ".intercalate texts ++ "\x7d"

def displayEach? : List Value → Option (List String)
  | [] => some []
  | v :: rest => do return (← v.display?) :: (← displayEach? rest)

end

mutual

/-- The written form of a value with at most `rendering` forms open inside one another, or the
first obstacle on the way to it. The body of a function counts with all its levels. -/
def displayWithin : (rendering : Nat) → Value → Except Fault String
  | 0, _ => .error .overdeepValue
  | _ + 1, .integer n => (Text.writeInteger n).elim (.error .overlongInteger) .ok
  | _ + 1, .real x => .ok x.write
  | _ + 1, .boolean b => .ok (if b then "true" else "false")
  | _ + 1, .undefined => .ok "undefined"
  | rendering + 1, .function parameters body =>
    if body.height ≤ rendering then
      .ok ("fn" ++ renderParameters parameters ++ " = " ++ body.render ++ ";")
    else .error .overdeepValue
  | _ + 1, .builtin f => .ok f.display
  | rendering + 1, .set _ members => (displayEachWithin rendering members).map fun texts =>
    "\x7b" ++ ", ".intercalate texts ++ "\x7d"

def displayEachWithin : (rendering : Nat) → List Value → Except Fault (List String)
  | _, [] => .ok []
  | rendering, v :: rest => do
    return (← v.displayWithin rendering) :: (← displayEachWithin rendering rest)

end

end Value

end PiecewiseLang
