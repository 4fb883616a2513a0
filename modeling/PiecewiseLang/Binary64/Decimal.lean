import PiecewiseLang.Binary64
import PiecewiseLang.Text.Numeral

/-! Decimals and the binary64 data nearest to them, and the numerals that write them:
digits with an optional point and an optional exponent, the infinities, and the mark of what
is not a number. -/
namespace PiecewiseLang

/-- The number `significand * 10 ^ exponent`. -/
structure Decimal where
  significand : Nat
  exponent : Int
deriving DecidableEq

namespace Decimal

/-- A bound on the decimal exponents that decide anything: `10 ^ exponentBound` overflows and
`10 ^ -exponentBound` is less than half a grid unit. -/
def exponentBound : Nat := 400

/-- The datum nearest to a decimal. Only decimals that surely overflow or vanish are told by
their exponent alone; every other one is compared exactly. -/
def nearest (negative : Bool) (d : Decimal) : Double :=
  if d.significand = 0 then .finite (.signedZero negative)
  else if (exponentBound : Int) < d.exponent then .infinite negative
  else if d.exponent + (d.significand.log2 / 3 + 1 : Nat) < -(exponentBound : Int) then
    .finite (.signedZero negative)
  else if 0 ≤ d.exponent then
    Double.ofRatio negative (d.significand * Nat.pow 10 d.exponent.toNat * Binary64.oneUnits) 1
  else
    Double.ofRatio negative (d.significand * Binary64.oneUnits) (Nat.pow 10 (-d.exponent).toNat)

end Decimal

namespace Double

/-- The digits on one side of the point, which may be missing. -/
def sideDigits (chars : List Char) : Option (List Char) :=
  if chars.isEmpty then some [] else Text.plainDigits chars

/-- The exponent of a numeral, given what follows the exponent mark. -/
def readExponent (chars : List Char) : Option Int := do
  let (negative, rest) := Text.takeSign chars
  return Text.signedValue negative (← Text.plainDigits rest)

/-- Reads digits with an optional point and an optional exponent. -/
def readDecimal (chars : List Char) : Option Decimal := do
  let isMark := fun c : Char => c = 'e' || c = 'E'
  let mantissa := chars.takeWhile (!isMark ·)
  let exponent ← match chars.dropWhile (!isMark ·) with
    | [] => some 0
    | _ :: rest => readExponent rest
  let whole ← sideDigits (mantissa.takeWhile (· ≠ '.'))
  let fraction ← sideDigits ((mantissa.dropWhile (· ≠ '.')).drop 1)
  if whole.isEmpty && fraction.isEmpty then none
  else some ⟨Text.digitsValue (whole ++ fraction), exponent - fraction.length⟩

/-- Reads a datum. Letters count alike in either case. -/
def read? (s : String) : Option Double :=
  let (negative, chars) := Text.takeSign (Text.numeralChars s)
  let word := String.ofList (chars.map Char.toLower)
  if word = "inf" || word = "infinity" then some (.infinite negative)
  else if word = "nan" then some .notANumber
  else (readDecimal chars).map (Decimal.nearest negative)

end Double

end PiecewiseLang
