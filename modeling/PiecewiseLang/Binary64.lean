/-! The finite numbers of the binary64 format, on the grid of multiples of 2^-1074.
A magnitude is an index into the ascending list of finite magnitudes, so neighbouring
indices are neighbouring numbers and the parity of an index is that of its significand.
All rounding is exact integer arithmetic on the grid; no machine floating point is used. -/
namespace PiecewiseLang

/-- The number of finite magnitudes: 2047 exponents with 2^52 fractions each. -/
abbrev magnitudeCount : Nat := 9218868437227405312

/-- A finite binary64 number. Both zeros are kept. -/
structure Binary64 where
  negative : Bool
  magnitude : Fin magnitudeCount
deriving DecidableEq

namespace Binary64

/-- The number of fractions that share one exponent. -/
def fractionCount : Nat := Nat.pow 2 52

/-- How many grid units make one. -/
def oneUnits : Nat := Nat.pow 2 1074

/-- The size of the magnitude with the given index, in grid units. -/
def magnitudeSize (index : Nat) : Nat :=
  if index < fractionCount then index
  else (fractionCount + index % fractionCount) * Nat.pow 2 (index / fractionCount - 1)

/-- The size of a number in grid units, without its sign. -/
def size (x : Binary64) : Nat := magnitudeSize x.magnitude

/-- The exact value of a number, in grid units. -/
def units (x : Binary64) : Int := if x.negative then -(x.size : Int) else x.size

/-- The whole number nearest to `numerator / denominator`, a tie going to the even one. -/
def divideHalfEven (numerator denominator : Nat) : Nat :=
  let quotient := numerator / denominator
  let remainder := numerator % denominator
  if 2 * remainder < denominator then quotient
  else if denominator < 2 * remainder then quotient + 1
  else if quotient % 2 = 0 then quotient
  else quotient + 1

/-- The index nearest to `numerator / denominator` grid units, a tie going to the even index.
The quotient is cut to 53 significant bits, or to whole units where there are fewer. The
result is past the last magnitude exactly when the quotient overflows. -/
def nearestIndex (numerator denominator : Nat) : Nat :=
  let spare := (numerator / denominator).log2 - 52
  spare * fractionCount + divideHalfEven numerator (denominator * Nat.pow 2 spare)

/-- The zero with the given sign. -/
def signedZero (negative : Bool) : Binary64 := ⟨negative, 0⟩

def zero : Binary64 := signedZero false

def isZero (x : Binary64) : Bool := x.magnitude.val = 0

/-- Negative zero becomes zero; every other number is kept. -/
def canonicalZero (x : Binary64) : Binary64 := if x.isZero then zero else x

def neg (x : Binary64) : Binary64 := { x with negative := !x.negative }

def abs (x : Binary64) : Binary64 := { x with negative := false }

/-- The whole part of a number, towards zero. -/
def truncate (x : Binary64) : Int := x.units.tdiv oneUnits

end Binary64

/-- Everything a binary64 datum can be. -/
inductive Double where
  | finite (number : Binary64)
  | infinite (negative : Bool)
  | notANumber
deriving DecidableEq

namespace Double

/-- The datum nearest to `numerator / denominator` grid units with the given sign. -/
def ofRatio (negative : Bool) (numerator denominator : Nat) : Double :=
  let index := Binary64.nearestIndex numerator denominator
  if h : index < magnitudeCount then .finite ⟨negative, index, h⟩ else .infinite negative

def ofInt (n : Int) : Double := ofRatio (n < 0) (n.natAbs * Binary64.oneUnits) 1

/-- The finite number a datum holds, if it holds one. -/
def finite? : Double → Option Binary64
  | .finite x => some x
  | _ => none

end Double

end PiecewiseLang
