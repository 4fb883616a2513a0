import PiecewiseLang.Binary64

/-! Arithmetic on finite binary64 numbers. Every operation except `power` is its exact
result, computed in grid units and rounded once; an overflow is an infinity and an operation
without a result is not a number. `power` is the one operation left to the machine. -/
namespace PiecewiseLang.Binary64

/-- The nearest datum to an exact sum of grid units. A sum of zero is negative only when
both operands are. -/
def add (a b : Binary64) : Double :=
  let sum := a.units + b.units
  if sum = 0 then .finite (signedZero (a.negative && b.negative))
  else Double.ofRatio (sum < 0) sum.natAbs 1

def sub (a b : Binary64) : Double := a.add b.neg

def mul (a b : Binary64) : Double :=
  Double.ofRatio (a.negative ^^ b.negative) (a.size * b.size) oneUnits

def div (a b : Binary64) : Double :=
  if b.isZero then
    if a.isZero then .notANumber else .infinite (a.negative ^^ b.negative)
  else Double.ofRatio (a.negative ^^ b.negative) (a.size * oneUnits) b.size

/-- The remainder of the division towards zero; it has the sign of the dividend. -/
def rem (a b : Binary64) : Double :=
  if b.isZero then .notANumber else Double.ofRatio a.negative (a.size % b.size) 1

/-- The quotient of two integers as the nearest datum to the exact quotient. -/
def divInts (a b : Int) : Double :=
  if b = 0 then .notANumber
  else Double.ofRatio (decide (a < 0) ^^ decide (b < 0)) (a.natAbs * oneUnits) b.natAbs

/-- The sign bit of an encoding. -/
def signBit : Nat := Nat.pow 2 63

/-- The 64-bit encoding of a number. -/
def bits (x : Binary64) : UInt64 :=
  UInt64.ofNat (x.magnitude.val + if x.negative then signBit else 0)

/-- The datum with the given 64-bit encoding. -/
def ofBits (encoding : UInt64) : Double :=
  let negative := decide (signBit ≤ encoding.toNat)
  let index := encoding.toNat % signBit
  if h : index < magnitudeCount then .finite ⟨negative, index, h⟩
  else if index = magnitudeCount then .infinite negative
  else .notANumber

/-- The machine's power of two numbers. -/
def power (a b : Binary64) : Double :=
  ofBits (Float.pow (Float.ofBits a.bits) (Float.ofBits b.bits)).toBits

end PiecewiseLang.Binary64
