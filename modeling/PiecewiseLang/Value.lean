import PiecewiseLang.Expr

/-! Values: what expressions denote. A set carries the kind its members share, or none when
it is empty, and lists its members in ascending order without repetition; the type itself
does not enforce this, the operations that build sets do. -/
namespace PiecewiseLang

inductive Kind where
  | integer | real | boolean | undefined | function | builtin | set
deriving DecidableEq, Repr

namespace Kind

def label : Kind → String
  | .integer => "Integer"
  | .real => "Real"
  | .boolean => "Boolean"
  | .undefined => "Undefined"
  | .function => "Function"
  | .builtin => "BuiltinFunction"
  | .set => "Set"

/-- The place of a kind in the order of values. Only the first four can be in sets. -/
def rank : Kind → Nat
  | .boolean => 0
  | .integer => 1
  | .real => 2
  | .set => 3
  | .undefined => 4
  | .function => 5
  | .builtin => 6

def canBeMember (kind : Kind) : Bool := kind.rank < 4

end Kind

/-- The functions every program starts with. Each takes one set. -/
inductive Builtin where
  | max | min | sum | product
deriving DecidableEq, Repr

namespace Builtin

def name : Builtin → String
  | .max => "max"
  | .min => "min"
  | .sum => "sum"
  | .product => "product"

def parameters (_ : Builtin) : List String := ["s"]

end Builtin

inductive Value where
  | integer (value : Int)
  | real (value : Double)
  | boolean (value : Bool)
  | undefined
  | function (parameters : List String) (body : Expr)
  | builtin (function : Builtin)
  | set (elementKind : Option Kind) (members : List Value)

namespace Value

mutual

def same : Value → Value → Bool
  | .integer a, .integer b => a = b
  | .real a, .real b => a = b
  | .boolean a, .boolean b => a = b
  | .undefined, .undefined => true
  | .function ps e, .function qs f => ps = qs && e = f
  | .builtin f, .builtin g => f = g
  | .set k as, .set l bs => k = l && sameAll as bs
  | _, _ => false

def sameAll : List Value → List Value → Bool
  | [], [] => true
  | a :: as, b :: bs => a.same b && sameAll as bs
  | _, _ => false

end

mutual

theorem same_iff : (a b : Value) → (a.same b = true ↔ a = b)
  | .integer _, b => by cases b <;> simp [same]
  | .real _, b => by cases b <;> simp [same]
  | .boolean _, b => by cases b <;> simp [same]
  | .undefined, b => by cases b <;> simp [same]
  | .function _ _, b => by cases b <;> simp [same]
  | .builtin _, b => by cases b <;> simp [same]
  | .set _ as, b => by cases b <;> simp [same, sameAll_iff as]

theorem sameAll_iff : (as bs : List Value) → (sameAll as bs = true ↔ as = bs)
  | [], bs => by cases bs <;> simp [sameAll]
  | a :: as, bs => by cases bs <;> simp [sameAll, same_iff a, sameAll_iff as]

end

instance : DecidableEq Value := fun a b => decidable_of_iff _ (same_iff a b)

def kind : Value → Kind
  | .integer _ => .integer
  | .real _ => .real
  | .boolean _ => .boolean
  | .undefined => .undefined
  | .function .. => .function
  | .builtin _ => .builtin
  | .set .. => .set

/-- The empty set, which goes with sets of every kind. -/
def emptySet : Value := .set none []

/-- A datum as a value: there is one zero, and what is not finite is undefined. -/
def ofDouble : Double → Value
  | .finite x => .real (.finite x.canonicalZero)
  | _ => .undefined

/-- The finite number nearest to a value, if the value is a number that has one. -/
def nearest? : Value → Option Binary64
  | .integer n => (Double.ofInt n).finite?
  | .real x => x.finite?
  | _ => none

/-- The exact value of a number in grid units of the binary64 format. -/
def units? : Value → Option Int
  | .integer n => some (n * Binary64.oneUnits)
  | .real (.finite x) => some x.units
  | _ => none

def isNumber : Value → Bool
  | .integer _ | .real _ => true
  | _ => false

end Value

end PiecewiseLang
