import PiecewiseLang.Value.Arithmetic

/-! The constants and functions every program starts with. The functions take a set: the
greatest and the least member of any set, and the sum and product of a set of numbers. On the
empty set all four are undefined. -/
namespace PiecewiseLang

namespace Binary64

/-- The number nearest to the ratio of a circle's circumference to its diameter. -/
def pi : Binary64 := ⟨false, ⟨0x400921fb54442d18, by decide⟩⟩

/-- The number nearest to the base of the natural logarithm. -/
def euler : Binary64 := ⟨false, ⟨0x4005bf0a8b145769, by decide⟩⟩

end Binary64

namespace Builtin

/-- What a function makes of the members of a set that is not empty. -/
def reduce (function : Builtin) (first : Value) (rest : List Value) : Except EvalError Value :=
  match function with
  | .max => .ok (rest.getLastD first)
  | .min => .ok first
  | .sum => rest.foldlM Value.add first
  | .product => rest.foldlM Value.multiply first

/-- Whether a function takes sets of numbers only. -/
def isNumeric : Builtin → Bool
  | .sum | .product => true
  | .max | .min => false

def apply (function : Builtin) (argument : Value) : Except EvalError Value :=
  match argument with
  | .set _ [] => .ok .undefined
  | .set elementKind (first :: rest) =>
    if function.isNumeric && !(first :: rest).all Value.isNumber then
      .error (.builtinMembers function elementKind)
    else function.reduce first rest
  | _ => .error (.builtinArgument function argument.kind)

end Builtin

/-- The bindings of a fresh environment, in order. -/
def initialBindings : List (String × Value) :=
  [("PI", .real (.finite .pi)), ("E", .real (.finite .euler)), ("max", .builtin .max),
    ("min", .builtin .min), ("sum", .builtin .sum), ("product", .builtin .product)]

end PiecewiseLang
