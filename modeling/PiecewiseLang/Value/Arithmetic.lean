import PiecewiseLang.Binary64.Arithmetic
import PiecewiseLang.Text.Numeral
import PiecewiseLang.Value.Sets

/-! Arithmetic on values. An undefined operand makes the result undefined. Two integers are
computed with exactly; in any other pair of numbers both are first taken to the nearest real,
and an integer that has none makes the result undefined. -/
namespace PiecewiseLang.Value

/-- An operation on numbers, given on integers and on reals. -/
def arithmetic (symbol : Symbol) (onInts : Int → Int → Value)
    (onReals : Binary64 → Binary64 → Double) (left right : Value) : Except EvalError Value :=
  match left, right with
  | .undefined, _ | _, .undefined => .ok .undefined
  | .integer a, .integer b => .ok (onInts a b)
  | _, _ =>
    if left.isNumber && right.isNumber then
      match left.nearest?, right.nearest? with
      | some a, some b => .ok (ofDouble (onReals a b))
      | _, _ => .ok .undefined
    else .error (unsupported symbol [left, right])

def add : Value → Value → Except EvalError Value :=
  arithmetic .add (fun a b => .integer (a + b)) Binary64.add

def subtract : Value → Value → Except EvalError Value :=
  arithmetic .sub (fun a b => .integer (a - b)) Binary64.sub

def multiply : Value → Value → Except EvalError Value :=
  arithmetic .mul (fun a b => .integer (a * b)) Binary64.mul

/-- Division gives a real. Division by zero is undefined. -/
def divide : Value → Value → Except EvalError Value :=
  arithmetic .div (fun a b => ofDouble (Binary64.divInts a b)) Binary64.div

/-- The remainder has the sign of the dividend. -/
def remainder : Value → Value → Except EvalError Value :=
  arithmetic .mod (fun a b => if b = 0 then .undefined else .integer (a.tmod b)) Binary64.rem

/-- The power of two reals, where both are there. -/
def powerReals : Option Binary64 → Option Binary64 → Value
  | some x, some y => ofDouble (x.power y)
  | _, _ => .undefined

/-- The power of two integers as reals. -/
def powerInts (a b : Int) : Value := powerReals (Double.ofInt a).finite? (Double.ofInt b).finite?

/-- A power is a real, also of integers. -/
def power : Value → Value → Except EvalError Value :=
  arithmetic .pow powerInts Binary64.power

/-- The set of the sum and the difference; both signs of the operator give the same set. -/
def plusMinus (left right : Value) : Except EvalFailure Value :=
  match left, right with
  | .undefined, _ | _, .undefined => .ok .undefined
  | _, _ =>
    if left.isNumber && right.isNumber then do
      let sum ← EvalFailure.ofExcept (add left right)
      let difference ← EvalFailure.ofExcept (subtract left right)
      if sum = .undefined || difference = .undefined then return .undefined
      else setOf [sum, difference]
    else .error (.error (unsupported .plusMinus [left, right]))

def negate : Value → Except EvalError Value
  | .undefined => .ok .undefined
  | .integer n => .ok (.integer (-n))
  | .real (.finite x) => .ok (ofDouble (.finite x.neg))
  | .real _ => .ok .undefined
  | operand => .error (unsupported .sub [operand])

/-- The size of a number, or the number of members of a set. -/
def magnitude : Value → Except EvalError Value
  | .undefined => .ok .undefined
  | .integer n => .ok (.integer n.natAbs)
  | .real (.finite x) => .ok (ofDouble (.finite x.abs))
  | .real _ => .ok .undefined
  | .set _ members => .ok (.integer members.length)
  | operand => .error (.magnitudeKind operand.kind)

/-- The greatest integer whose factorial is taken. -/
def factorialMax : Int := 9223372036854775807

/-- The product of the numbers from one to `n`. -/
def productUpTo (n : Nat) : Nat := (List.range n).foldl (fun product k => product * (k + 1)) 1

def factorial : Value → Except EvalFailure Value
  | .undefined => .ok .undefined
  | .integer n =>
    if n < 0 then
      match Text.writeInteger n with
      | some _ => .error (.error (.negativeFactorial n))
      | none => .error (.fault .overlongInteger)
    else if factorialMax < n then .error (.fault .oversizedFactorial)
    else .ok (.integer (productUpTo n.toNat))
  | operand => .error (.error (unsupported .factorial [operand]))

end PiecewiseLang.Value
