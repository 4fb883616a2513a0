import PiecewiseLang.Binary64.Decimal

/-! The written form of binary64 data: the fewest decimal digits that read back as the same
number, and of these the nearest to it, set out around a point without an exponent. -/
namespace PiecewiseLang

/-- Of the two decimals next to `exact / scale * 10 ^ exponent` with that exponent, one that
passes a test; of two such the nearer, and of two equally near ones the even. -/
def Decimal.neighbour? (passes : Decimal → Bool) (exact scale : Nat) (exponent : Int) :
    Option Decimal :=
  let below : Decimal := ⟨exact / scale, exponent⟩
  let above : Decimal := ⟨below.significand + 1, exponent⟩
  let excess := exact % scale
  match passes below, passes above with
  | true, true =>
    if 2 * excess < scale then some below
    else if scale < 2 * excess then some above
    else if below.significand % 2 = 0 then some below
    else some above
  | true, false => some below
  | false, true => some above
  | false, false => none

namespace Binary64

/-- The least exponent at which every finite number is a whole number of decimal units. -/
def exactExponent : Int := -1074

/-- The size of a number in units of `10 ^ exactExponent`; no rounding takes place. -/
def exactSignificand (x : Binary64) : Nat := x.size * Nat.pow 5 1074

/-- Whether a decimal reads back as the magnitude of `x`. -/
def readsBack (x : Binary64) (d : Decimal) : Bool := d.nearest x.negative = .finite x

/-- Of the two decimals next to `x` on the grid of `10 ^ (exactExponent + shift)`, one that
reads back as `x`. -/
def neighbour? (x : Binary64) (shift : Nat) : Option Decimal :=
  Decimal.neighbour? x.readsBack x.exactSignificand (Nat.pow 10 shift) (exactExponent + shift)

/-- Searches the grids from `10 ^ (exactExponent + shift)` down to the exact one. -/
def search (x : Binary64) : Nat → Decimal
  | 0 => ⟨x.exactSignificand, exactExponent⟩
  | shift + 1 => (x.neighbour? (shift + 1)).getD (x.search shift)

/-- The decimal of fewest digits that reads back as the magnitude of `x`. -/
def shortest (x : Binary64) : Decimal :=
  x.search ((Nat.toDigits 10 x.exactSignificand).length - 1)

end Binary64

namespace Decimal

/-- The digits before the point. -/
def wholeDigits (d : Decimal) : List Char :=
  if 0 ≤ d.exponent then Nat.toDigits 10 (d.significand * Nat.pow 10 d.exponent.toNat)
  else Nat.toDigits 10 (d.significand / Nat.pow 10 (-d.exponent).toNat)

/-- The digits after the point, without zeros at the end. -/
def fractionDigits (d : Decimal) : List Char :=
  if 0 ≤ d.exponent then []
  else
    let places := (-d.exponent).toNat
    let digits := Nat.toDigits 10 (d.significand % Nat.pow 10 places)
    let padded := List.replicate (places - digits.length) '0' ++ digits
    (padded.reverse.dropWhile (· = '0')).reverse

/-- A decimal written around a point, with at least one digit on either side. -/
def positional (d : Decimal) : String :=
  let fraction := d.fractionDigits
  String.ofList (d.wholeDigits ++ '.' :: if fraction.isEmpty then ['0'] else fraction)

end Decimal

namespace Binary64

/-- The written form of a finite number. -/
def write (x : Binary64) : String :=
  (if x.negative then "-" else "") ++ x.shortest.positional

end Binary64

namespace Double

/-- The written form of a datum. -/
def write : Double → String
  | .finite x => x.write
  | .infinite true => "-Infinity.0"
  | .infinite false => "Infinity.0"
  | .notANumber => "NaN.0"

end Double

end PiecewiseLang
