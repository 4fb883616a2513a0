import PiecewiseLang.Value.Error

/-! Casts to the domains of the natural numbers, the integers, the reals and the truth
values. A real is cut towards zero; a negative integer is no natural number. -/
namespace PiecewiseLang

inductive Domain where
  | naturals | integers | reals | booleans
deriving DecidableEq, Repr

namespace Domain

def ofName? : String → Option Domain
  | "N" => some .naturals
  | "Z" => some .integers
  | "R" => some .reals
  | "B" => some .booleans
  | _ => none

def name : Domain → String
  | .naturals => "N"
  | .integers => "Z"
  | .reals => "R"
  | .booleans => "B"

end Domain

namespace Value

/-- The whole part of a number or truth value, if it is finite. -/
def whole? : Value → Option Int
  | .integer n => some n
  | .real (.finite x) => some x.truncate
  | .boolean b => some b.toInt
  | _ => none

/-- Whether a number or truth value differs from zero. -/
def isNonzero : Value → Bool
  | .integer n => n ≠ 0
  | .real (.finite x) => !x.isZero
  | .real _ => true
  | .boolean b => b
  | _ => false

def toReal : Value → Value
  | .integer n => ofDouble (Double.ofInt n)
  | .boolean b => ofDouble (Double.ofInt b.toInt)
  | value => value

def toInteger (value : Value) : Value :=
  match value.whole? with
  | some n => .integer n
  | none => .undefined

def toNatural (value : Value) : Value :=
  match value.whole? with
  | some n => if n < 0 then .undefined else .integer n
  | none => .undefined

/-- The cast of a number or truth value. -/
def convert (domain : Domain) (value : Value) : Value :=
  match domain with
  | .naturals => toNatural value
  | .integers => toInteger value
  | .reals => toReal value
  | .booleans => .boolean value.isNonzero

def cast (value : Value) (domainName : String) : Except EvalError Value :=
  match Domain.ofName? domainName with
  | none => .error (.unknownDomain domainName)
  | some domain =>
    match value with
    | .undefined => .ok .undefined
    | .integer _ | .real _ | .boolean _ => .ok (convert domain value)
    | _ => .error (.castKind value.kind domain.name)

end Value

end PiecewiseLang
