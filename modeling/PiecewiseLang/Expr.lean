import PiecewiseLang.Binary64
import PiecewiseLang.Operator

/-! Expressions and statements as trees. The trees are free: a combination may lack an
operand or pair a symbol with a place it does not have, and a literal may be any datum.
Equality of trees is decided structurally. -/
namespace PiecewiseLang

inductive Expr where
  | name (name : String)
  | integer (value : Int)
  | real (value : Double)
  | boolean (value : Bool)
  | undefined
  /-- An operator with its operands: the right one alone before an operand, the left one
  alone after, both between. -/
  | combination (operator : Operator) (left right : Option Expr)
  | call (callee : Expr) (arguments : List Expr)
  /-- Values with the guards they stand under; the first guard that holds decides. -/
  | piecewise (arms : List (Expr × Expr))
  /-- The size of a number or of a set, between bars. -/
  | magnitude (operand : Expr)
  | set (members : List Expr)

namespace Expr

mutual

def same : Expr → Expr → Bool
  | .name a, .name b => a = b
  | .integer a, .integer b => a = b
  | .real a, .real b => a = b
  | .boolean a, .boolean b => a = b
  | .undefined, .undefined => true
  | .combination o l r, .combination o' l' r' => o = o' && sameOperand l l' && sameOperand r r'
  | .call f as, .call g bs => f.same g && sameAll as bs
  | .piecewise as, .piecewise bs => sameArms as bs
  | .magnitude a, .magnitude b => a.same b
  | .set as, .set bs => sameAll as bs
  | _, _ => false

def sameOperand : Option Expr → Option Expr → Bool
  | none, none => true
  | some a, some b => a.same b
  | _, _ => false

def sameAll : List Expr → List Expr → Bool
  | [], [] => true
  | a :: as, b :: bs => a.same b && sameAll as bs
  | _, _ => false

def sameArms : List (Expr × Expr) → List (Expr × Expr) → Bool
  | [], [] => true
  | (v, g) :: as, (w, h) :: bs => v.same w && g.same h && sameArms as bs
  | _, _ => false

end

mutual

theorem same_iff : (a b : Expr) → (a.same b = true ↔ a = b)
  | .name _, b => by cases b <;> simp [same]
  | .integer _, b => by cases b <;> simp [same]
  | .real _, b => by cases b <;> simp [same]
  | .boolean _, b => by cases b <;> simp [same]
  | .undefined, b => by cases b <;> simp [same]
  | .combination _ l r, b => by
    cases b <;> simp [same, and_assoc, sameOperand_iff l, sameOperand_iff r]
  | .call f as, b => by cases b <;> simp [same, same_iff f, sameAll_iff as]
  | .piecewise as, b => by cases b <;> simp [same, sameArms_iff as]
  | .magnitude a, b => by cases b <;> simp [same, same_iff a]
  | .set as, b => by cases b <;> simp [same, sameAll_iff as]

theorem sameOperand_iff : (a b : Option Expr) → (sameOperand a b = true ↔ a = b)
  | none, b => by cases b <;> simp [sameOperand]
  | some a, b => by cases b <;> simp [sameOperand, same_iff a]

theorem sameAll_iff : (as bs : List Expr) → (sameAll as bs = true ↔ as = bs)
  | [], bs => by cases bs <;> simp [sameAll]
  | a :: as, bs => by cases bs <;> simp [sameAll, same_iff a, sameAll_iff as]

theorem sameArms_iff : (as bs : List (Expr × Expr)) → (sameArms as bs = true ↔ as = bs)
  | [], bs => by cases bs <;> simp [sameArms]
  | (_, _) :: _, [] => by simp [sameArms]
  | (v, g) :: as, (_, _) :: _ => by simp [sameArms, same_iff v, same_iff g, sameArms_iff as]

end

instance : DecidableEq Expr := fun a b => decidable_of_iff _ (same_iff a b)

mutual

/-- The number of levels of an expression. -/
def height : Expr → Nat
  | .name _ | .integer _ | .real _ | .boolean _ | .undefined => 1
  | .combination _ left right => max (operandHeight left) (operandHeight right) + 1
  | .call callee arguments => max callee.height (allHeight arguments) + 1
  | .piecewise arms => armsHeight arms + 1
  | .magnitude operand => operand.height + 1
  | .set members => allHeight members + 1

def operandHeight : Option Expr → Nat
  | none => 0
  | some e => e.height

/-- The number of levels of the highest expression in a list. -/
def allHeight : List Expr → Nat
  | [] => 0
  | e :: rest => max e.height (allHeight rest)

def armsHeight : List (Expr × Expr) → Nat
  | [] => 0
  | (value, guard) :: rest => max (max value.height guard.height) (armsHeight rest)

end

end Expr

inductive Statement where
  /-- Binds a name to the value of an expression. -/
  | assignment (name : String) (expression : Expr)
  /-- Binds a name to a function. -/
  | declaration (name : String) (parameters : List String) (body : Expr)
  /-- Shows the value of an expression. -/
  | expression (expression : Expr)
deriving DecidableEq

end PiecewiseLang
