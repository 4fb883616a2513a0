import PiecewiseLang.Text.Quoted

/-! Operators. An operator is a symbol in a place: the minus sign in front of an operand and
the minus sign between two are different operators, each with a binding strength of its own,
and most pairs of a symbol and a place are no operator at all. -/
namespace PiecewiseLang

inductive Symbol where
  | add | sub | mul | div | mod | pow | plusMinus | minusPlus
  | eq | ne | lt | le | gt | ge
  | and | or | xor | not
  | coalesce | mem | cast | factorial | call
  | union | intersection | difference | symmetricDifference
deriving DecidableEq, Repr

namespace Symbol

def text : Symbol → String
  | .add => "+"
  | .sub => "-"
  | .mul => "*"
  | .div => "/"
  | .mod => "%"
  | .pow => "^"
  | .plusMinus => "+/-"
  | .minusPlus => "-/+"
  | .eq => "=="
  | .ne => "=/="
  | .lt => "<"
  | .le => "<="
  | .gt => ">"
  | .ge => ">="
  | .and => "and"
  | .or => "or"
  | .xor => "xor"
  | .not => "not"
  | .coalesce => "?"
  | .mem => "in"
  | .cast => "as"
  | .factorial => "!"
  | .call => "("
  | .union => "\\/"
  | .intersection => "/\\"
  | .difference => "\\"
  | .symmetricDifference => "/_\\"

def all : List Symbol :=
  [.add, .sub, .mul, .div, .mod, .pow, .plusMinus, .minusPlus, .eq, .ne, .lt, .le, .gt, .ge,
    .and, .or, .xor, .not, .coalesce, .mem, .cast, .factorial, .call, .union, .intersection,
    .difference, .symmetricDifference]

/-- The symbol with the given text. -/
def ofText? (text : String) : Option Symbol := all.find? (·.text = text)

/-- Symbols written with letters need a blank before what follows them. -/
def isWord (symbol : Symbol) : Bool := symbol.text.toList.all Char.isAlpha

end Symbol

/-- The place of an operator: before its operand, between two, or after its operand. -/
inductive Fixity where
  | prefixed | infixed | postfixed
deriving DecidableEq, Repr

namespace Fixity

def text : Fixity → String
  | .prefixed => "prefix"
  | .infixed => "infix"
  | .postfixed => "postfix"

end Fixity

/-- Binding strengths, from the weakest to the strongest. -/
inductive Precedence where
  | lowest | connective | comparison | additive | multiplicative | cast | unary | exponent
  | suffix | call
deriving DecidableEq, Repr

namespace Precedence

def level : Precedence → Nat
  | .lowest => 0
  | .connective => 1
  | .comparison => 2
  | .additive => 3
  | .multiplicative => 4
  | .cast => 5
  | .unary => 6
  | .exponent => 7
  | .suffix => 8
  | .call => 9

end Precedence

structure Operator where
  symbol : Symbol
  fixity : Fixity
deriving DecidableEq, Repr

namespace Operator

/-- The binding strength of a symbol between two operands. -/
def infixPrecedence? : Symbol → Option Precedence
  | .and | .or | .xor => some .connective
  | .eq | .ne | .lt | .le | .gt | .ge | .coalesce | .mem => some .comparison
  | .add | .sub | .plusMinus | .minusPlus => some .additive
  | .union | .difference | .symmetricDifference => some .additive
  | .mul | .div | .mod | .intersection => some .multiplicative
  | .cast => some .cast
  | .pow => some .exponent
  | .call => some .call
  | .not | .factorial => none

/-- The binding strength of a legal operator; the other pairs have none. -/
def precedence? (operator : Operator) : Option Precedence :=
  match operator.fixity, operator.symbol with
  | .prefixed, .not | .prefixed, .sub => some .unary
  | .postfixed, .factorial => some .suffix
  | .infixed, symbol => infixPrecedence? symbol
  | _, _ => none

/-- What is said about a pair that is no operator. -/
def illegalMessage (operator : Operator) : String :=
  "Illegal combination of operator and fixity: operator=" ++ Text.quoted operator.symbol.text ++
    ", fixity=" ++ operator.fixity.text ++ "."

end Operator

end PiecewiseLang
