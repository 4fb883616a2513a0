import PiecewiseLang.Text.Blank
import PiecewiseLang.Text.Digits

/-! Numerals as text. White space around a numeral is skipped, a sign may stand in front, and
a single underscore may stand between two digits. The decimal digits of all scripts count. -/
namespace PiecewiseLang.Text

/-- The characters of a numeral: white space around them is left out, and digits are brought
to their ASCII form. -/
def numeralChars (s : String) : List Char := (trimmed isWhiteSpace s.toList).map asciiDigit

/-- The number written by ASCII digits, the most significant first. -/
def digitsValue (digits : List Char) : Nat :=
  digits.foldl (fun value c => 10 * value + (c.toNat - '0'.toNat)) 0

/-- A nonempty run of ASCII digits without its underscores. -/
def plainDigits : List Char → Option (List Char)
  | [] => none
  | [c] => if c.isDigit then some [c] else none
  | c :: '_' :: rest => if c.isDigit then (plainDigits rest).map (c :: ·) else none
  | c :: rest => if c.isDigit then (plainDigits rest).map (c :: ·) else none

/-- Splits off a sign; the first component tells whether it was a minus. -/
def takeSign : List Char → Bool × List Char
  | '-' :: rest => (true, rest)
  | '+' :: rest => (false, rest)
  | chars => (false, chars)

/-- The most decimal digits an integer may have as text. -/
def digitLimit : Nat := 4300

/-- The integer of a sign and ASCII digits. -/
def signedValue (negative : Bool) (digits : List Char) : Int :=
  if negative then -(digitsValue digits : Int) else digitsValue digits

/-- Reads an integer of at most `digitLimit` digits. -/
def readInteger (s : String) : Option Int := do
  let (negative, rest) := takeSign (numeralChars s)
  let digits ← plainDigits rest
  if digitLimit < digits.length then none else some (signedValue negative digits)

/-- Writes an integer of at most `digitLimit` digits. -/
def writeInteger (n : Int) : Option String :=
  if n.natAbs < Nat.pow 10 digitLimit then some (toString n) else none

end PiecewiseLang.Text
