import PiecewiseLang.Value.Error
import PiecewiseLang.Value.Order

/-! Sets as values: building them from members, and their algebra. Two sets go together when
their members have one kind or one of them is empty. -/
namespace PiecewiseLang

/-- A set in the making: the kind of its members, if it has any, and the members in order. -/
structure Collection where
  elementKind : Option Kind
  members : List Value

namespace Collection

def empty : Collection := ⟨none, []⟩

/-- Adds one member. Members have a kind that sets can hold, the same for all of them. -/
def add (collection : Collection) (x : Value) : Except EvalError Collection :=
  if x.kind = .undefined then .error .undefinedMember
  else if !x.kind.canBeMember then .error (.memberKind x.kind)
  else match collection.elementKind with
    | none => .ok ⟨some x.kind, x.insert collection.members⟩
    | some kind =>
      if x.kind = kind then .ok ⟨some kind, x.insert collection.members⟩
      else .error (.mixedMembers kind x.kind)

/-- The finished set. Its members are looked up in the table of ranks. -/
def toValue (collection : Collection) : Except EvalFailure Value :=
  if Value.allRanked collection.members then
    .ok (.set collection.elementKind collection.members)
  else .error (.fault .missingEntry)

end Collection

namespace Value

/-- The set of the given members, whatever their order and repetitions. -/
def setOf (members : List Value) : Except EvalFailure Value := do
  (← EvalFailure.ofExcept (members.foldlM Collection.add Collection.empty)).toValue

end Value

/-- The operators on pairs of sets that give a set. -/
inductive SetOperation where
  | union | intersection | difference | symmetricDifference
deriving DecidableEq, Repr

namespace SetOperation

def symbol : SetOperation → Symbol
  | .union => .union
  | .intersection => .intersection
  | .difference => .difference
  | .symmetricDifference => .symmetricDifference

/-- The members of the result, from the members of the operands. -/
def combine (operation : SetOperation) (as bs : List Value) : List Value :=
  match operation with
  | .union => as ++ bs
  | .intersection => as.filter (· ∈ bs)
  | .difference => as.filter (· ∉ bs)
  | .symmetricDifference => as.filter (· ∉ bs) ++ bs.filter (· ∉ as)

end SetOperation

namespace Value

/-- Fails when two sets do not go together under an operator. -/
def requireCompatible (symbol : Symbol) (left right : Option Kind) : Except EvalError Unit :=
  match left, right with
  | some k, some l => if k = l then .ok () else .error (.setKinds symbol k l)
  | _, _ => .ok ()

/-- The error of an operator on operands of kinds that it does not take. -/
def unsupported (symbol : Symbol) (operands : List Value) : EvalError :=
  .operandKinds symbol (operands.map kind)

def setAlgebra (operation : SetOperation) (left right : Value) : Except EvalFailure Value :=
  match left, right with
  | .undefined, _ | _, .undefined => .ok .undefined
  | .set k as, .set l bs => do
    EvalFailure.ofExcept (requireCompatible operation.symbol k l)
    setOf (operation.combine as bs)
  | _, _ => .error (.error (unsupported operation.symbol [left, right]))

/-- Membership. What is undefined is in no set; a set that is not empty is asked only about
values of the kind of its members. -/
def contains (element container : Value) : Except EvalError Value :=
  match container with
  | .undefined => .ok .undefined
  | .set elementKind members =>
    if element.kind = .undefined then .ok (.boolean false)
    else match elementKind with
      | none => .ok (.boolean (element ∈ members))
      | some kind =>
        if element.kind = kind then .ok (.boolean (element ∈ members))
        else .error (.membershipKind element.kind kind)
  | _ => .error (unsupported .mem [element, container])

end Value

end PiecewiseLang
