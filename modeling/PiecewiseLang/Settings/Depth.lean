import PiecewiseLang.Settings.Problem
import PiecewiseLang.Settings.Toml
import PiecewiseLang.Text.Numeral

/-! Integers in settings. Besides an integer, an entry may be a truth value, a real without a
fraction, or a text that writes an integer. Such a text may have white space around it, a
sign, zeros in front, single underscores between its digits and a fraction of zeros. -/
namespace PiecewiseLang.Settings

/-- A number without zeros in front begins with a minus sign or one of these digits. -/
def beginsNumber (c : Char) : Bool := c = '-' || ('1' ≤ c && c ≤ '9')

/-- Drops zeros and underscores; the first argument is the last one dropped. It stays where
nothing or a point comes after it. -/
def dropZeros : (last : Char) → List Char → Option (List Char)
  | last, [] => some [last]
  | last, c :: rest =>
    if c = '0' || c = '_' then dropZeros c rest
    else if beginsNumber c then some (c :: rest)
    else if c = '.' then some (last :: c :: rest)
    else none

/-- The text without the zeros in front of other digits. -/
def withoutZeros : List Char → Option (List Char)
  | [] => none
  | c :: rest =>
    if c = '0' then dropZeros c rest
    else if beginsNumber c then some (c :: rest)
    else none

/-- The text without the sign, if it is one that can be left out, and without the zeros
behind it. A minus sign is kept. -/
def withoutPadding : List Char → Option (List Char)
  | '+' :: '-' :: _ => none
  | '+' :: rest => withoutZeros rest
  | '-' :: rest => (withoutZeros rest).map ('-' :: ·)
  | chars => withoutZeros chars

/-- The text without a fraction of zeros, of which there is at least one. -/
def withoutFraction (chars : List Char) : List Char :=
  let fraction := (chars.dropWhile (· ≠ '.')).drop 1
  if !fraction.isEmpty && fraction.all (· = '0') then chars.takeWhile (· ≠ '.') else chars

def hasDoubleUnderscore : List Char → Bool
  | '_' :: '_' :: _ => true
  | _ :: rest => hasDoubleUnderscore rest
  | [] => false

/-- The text without its underscores, if they stand one by one and inside. -/
def withoutUnderscores (chars : List Char) : List Char :=
  if chars.head? = some '_' || chars.getLast? = some '_' || hasDoubleUnderscore chars then chars
  else chars.filter (· ≠ '_')

/-- The integer written by a minus sign or none and digits without zeros in front. The sign
and the digits are together at most as many as an integer may have digits. -/
def plainInteger (chars : List Char) : Except Problem Int :=
  let (negative, unsigned) := match chars with
    | '-' :: rest => (true, rest)
    | _ => (false, chars)
  let digits := unsigned.takeWhile Char.isDigit
  let isWhole := digits.length = unsigned.length
  let width := digits.length + if negative then 1 else 0
  match digits with
  | [] => .error .notAnInteger
  | ['0'] => if isWhole then .ok 0 else .error .notAnInteger
  | '0' :: _ => .error .notAnInteger
  | _ =>
    if Text.digitLimit < width then .error .overlong
    else if isWhole then .ok (Text.signedValue negative digits)
    else .error .notAnInteger

def integerOfText (s : String) : Except Problem Int :=
  match withoutPadding (Text.trimmed Text.isWhiteSpace s.toList) with
  | none => .error .notAnInteger
  | some chars => plainInteger (withoutUnderscores (withoutFraction chars))

/-- Reals count as integers where they have no fraction and are less in size than `2 ^ 63`. -/
def integerOfReal (x : Binary64) : Except Problem Int :=
  if x.units % Binary64.oneUnits ≠ 0 then .error .fractional
  else if x.truncate.natAbs < Nat.pow 2 63 then .ok x.truncate
  else .error .overlong

def readInteger : Toml → Except Problem Int
  | .integer n => .ok n
  | .boolean b => .ok b.toInt
  | .real (.finite x) => integerOfReal x
  | .real _ => .error .notFinite
  | .text s => integerOfText s
  | _ => .error .notIntegral

end PiecewiseLang.Settings
