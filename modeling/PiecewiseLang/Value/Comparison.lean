import PiecewiseLang.Value.Sets

/-! Comparison and logic on values. Numbers compare by their exact values, whatever their
kinds, and sets by containment. What is undefined differs from everything, itself included,
and has no place in an order. -/
namespace PiecewiseLang

inductive Comparison where
  | eq | ne | lt | le | gt | ge
deriving DecidableEq, Repr

namespace Comparison

/-- The comparison a symbol stands for, looked up in the table of comparisons. -/
def ofSymbol : Symbol → Except EvalFailure Comparison
  | .eq => .ok .eq
  | .ne => .ok .ne
  | .lt => .ok .lt
  | .le => .ok .le
  | .gt => .ok .gt
  | .ge => .ok .ge
  | _ => .error (.fault .missingEntry)

/-- The comparison of two numbers by their exact values. -/
def onInts (comparison : Comparison) (a b : Int) : Bool :=
  match comparison with
  | .eq => a = b
  | .ne => a ≠ b
  | .lt => a < b
  | .le => a ≤ b
  | .gt => b < a
  | .ge => b ≤ a

/-- Whether every member of the first list is in the second. -/
def isContained (as bs : List Value) : Bool := as.all (· ∈ bs)

/-- The comparison of two sets by their members. -/
def onSets (comparison : Comparison) (as bs : List Value) : Bool :=
  match comparison with
  | .eq => isContained as bs && isContained bs as
  | .ne => !(isContained as bs && isContained bs as)
  | .lt => isContained as bs && !isContained bs as
  | .le => isContained as bs
  | .gt => isContained bs as && !isContained as bs
  | .ge => isContained bs as

end Comparison

/-- The logical operators on two operands. -/
inductive Connective where
  | and | or | xor
deriving DecidableEq, Repr

namespace Connective

/-- The connective a symbol stands for, looked up in the table of connectives. -/
def ofSymbol : Symbol → Except EvalFailure Connective
  | .and => .ok .and
  | .or => .ok .or
  | .xor => .ok .xor
  | _ => .error (.fault .missingEntry)

def apply : Connective → Bool → Bool → Bool
  | .and => Bool.and
  | .or => Bool.or
  | .xor => Bool.xor

end Connective

namespace Value

/-- A comparison with something undefined. -/
def compareUndefined : Symbol → Value
  | .eq => .boolean false
  | .ne => .boolean true
  | _ => .undefined

/-- Truth values can be equal or different; they have no order. -/
def compareBooleans (symbol : Symbol) (a b : Bool) : Except EvalError Value :=
  match symbol with
  | .eq => .ok (.boolean (a = b))
  | .ne => .ok (.boolean (a ≠ b))
  | _ => .error (unsupported symbol [.boolean a, .boolean b])

/-- Numbers by their exact values. A real that is not finite equals nothing. -/
def compareNumbers (comparison : Comparison) (left right : Value) : Bool :=
  match left.units?, right.units? with
  | some a, some b => comparison.onInts a b
  | _, _ => comparison = .ne

def compare (symbol : Symbol) (left right : Value) : Except EvalFailure Value :=
  match left, right with
  | .undefined, _ | _, .undefined => .ok (compareUndefined symbol)
  | .boolean a, .boolean b => EvalFailure.ofExcept (compareBooleans symbol a b)
  | .set k as, .set l bs => do
    EvalFailure.ofExcept (requireCompatible symbol k l)
    let comparison ← Comparison.ofSymbol symbol
    return .boolean (comparison.onSets as bs)
  | _, _ =>
    if left.isNumber && right.isNumber then do
      let comparison ← Comparison.ofSymbol symbol
      return .boolean (compareNumbers comparison left right)
    else .error (.error (unsupported symbol [left, right]))

/-- Both operands are always evaluated and both must be truth values. -/
def connect (symbol : Symbol) (left right : Value) : Except EvalFailure Value :=
  match left, right with
  | .undefined, _ | _, .undefined => .ok .undefined
  | .boolean a, .boolean b => do
    let connective ← Connective.ofSymbol symbol
    return .boolean (connective.apply a b)
  | _, _ => .error (.error (unsupported symbol [left, right]))

def not : Value → Except EvalError Value
  | .undefined => .ok .undefined
  | .boolean b => .ok (.boolean (!b))
  | operand => .error (unsupported .not [operand])

/-- The left operand, or the right one where the left is undefined. -/
def coalesce : Value → Value → Value
  | .undefined, right => right
  | left, _ => left

end Value

end PiecewiseLang
