import PiecewiseLang.Binary64.Decimal
import PiecewiseLang.Settings.Toml

/-! The plain values of settings files: strings on one line or on several, numbers, dates and
times. Each reader takes the longest text that makes a value and returns what follows it. -/
namespace PiecewiseLang

namespace Toml

def isSpace (c : Char) : Bool := c = ' ' || c = '\t'

def skipSpace (chars : List Char) : List Char := chars.dropWhile isSpace

/-- Control characters other than the tab, which no line may hold. -/
def isControl (c : Char) : Bool := (c.toNat < 0x20 && c ≠ '\t') || c.toNat = 0x7f

/-! Strings. -/

def hexValue (c : Char) : Nat :=
  if c.isDigit then c.toNat - '0'.toNat else c.toLower.toNat - 'a'.toNat + 10

def isHexDigit (c : Char) : Bool :=
  c.isDigit || ('a' ≤ c && c ≤ 'f') || ('A' ≤ c && c ≤ 'F')

/-- The number written by digits of a base, the most significant first. -/
def basedValue (base : Nat) (digits : List Char) : Nat :=
  digits.foldl (fun value c => base * value + hexValue c) 0

/-- The character an escape of `width` hexadecimal digits stands for, and what follows it. -/
def unicodeEscape (width : Nat) (chars : List Char) : Option (Char × List Char) :=
  let digits := chars.take width
  let code := basedValue 16 digits
  if digits.length < width || !digits.all isHexDigit then none
  else if h : code.isValidChar then some (Char.ofNatAux code h, chars.drop width)
  else none

/-- The character an escape stands for, given what follows the backslash. -/
def escape : List Char → Option (Char × List Char)
  | 'b' :: rest => some ('\x08', rest)
  | 't' :: rest => some ('\t', rest)
  | 'n' :: rest => some ('\n', rest)
  | 'f' :: rest => some ('\x0c', rest)
  | 'r' :: rest => some ('\r', rest)
  | '"' :: rest => some ('"', rest)
  | '\\' :: rest => some ('\\', rest)
  | 'u' :: rest => unicodeEscape 4 rest
  | 'U' :: rest => unicodeEscape 8 rest
  | _ => none

/-- What is left after a backslash at the end of a line, which takes away that line end and
all blanks and empty lines behind it. -/
def joinedLine? (chars : List Char) : Option (List Char) :=
  match skipSpace chars with
  | '\n' :: rest => some (rest.dropWhile fun c => isSpace c || c = '\n')
  | _ => none

/-- Whether a string may hold a character as it is. -/
def isStringChar (lines : Bool) (c : Char) : Bool := !isControl c || (lines && c = '\n')

/-- The rest of a string between double quotation marks, or between three of them where it
may have several lines. The bound is on the number of characters. -/
def basicString (lines : Bool) : (bound : Nat) → List Char → Option (List Char × List Char)
  | 0, _ => none
  | bound + 1, chars =>
    let keep := fun (c : Char) (rest : List Char) =>
      (basicString lines bound rest).map fun (more, rest) => (c :: more, rest)
    match lines, chars with
    | _, [] => none
    | false, '"' :: rest => some ([], rest)
    | true, '"' :: '"' :: '"' :: rest => some ([], rest)
    | true, '"' :: rest => keep '"' rest
    | _, '\\' :: rest =>
      match if lines then joinedLine? rest else none with
      | some rest => basicString lines bound rest
      | none => do
        let (c, rest) ← escape rest
        keep c rest
    | _, c :: rest => if isStringChar lines c then keep c rest else none

/-- The rest of a string between apostrophes, or between three of them where it may have
several lines. It has no escapes. -/
def literalString (lines : Bool) : List Char → Option (List Char × List Char)
  | [] => none
  | c :: rest =>
    if c = '\'' && (!lines || rest.take 2 = ['\'', '\'']) then
      some ([], if lines then rest.drop 2 else rest)
    else if isStringChar lines c then
      (literalString lines rest).map fun (more, rest) => (c :: more, rest)
    else none

/-- Up to two more quotation marks at the end of a string of several lines belong to it. -/
def withFinalMarks (mark : Char) : List Char × List Char → List Char × List Char
  | (chars, rest) =>
    let marks := (rest.take 2).takeWhile (· = mark)
    (chars ++ marks, rest.drop marks.length)

/-- A string of several lines does not begin with a line end. -/
def dropLineEnd : List Char → List Char
  | '\n' :: rest => rest
  | chars => chars

/-- A string on one line, with its quotation marks. -/
def lineString? (bound : Nat) (chars : List Char) : Option (String × List Char) := do
  let (s, rest) ← match chars with
    | '"' :: rest => basicString false bound rest
    | '\'' :: rest => literalString false rest
    | _ => none
  return (String.ofList s, rest)

/-- A string of either sort, with its quotation marks. -/
def string? (bound : Nat) (chars : List Char) : Option (String × List Char) :=
  match chars with
  | '"' :: '"' :: '"' :: rest => do
    let (s, rest) := withFinalMarks '"' (← basicString true bound (dropLineEnd rest))
    return (String.ofList s, rest)
  | '\'' :: '\'' :: '\'' :: rest => do
    let (s, rest) := withFinalMarks '\'' (← literalString true (dropLineEnd rest))
    return (String.ofList s, rest)
  | _ => lineString? bound chars

/-! Numbers. -/

/-- More digits of a class, each with an underscore in front of it or none. -/
def moreDigits (isDigit : Char → Bool) : List Char → List Char × List Char
  | [] => ([], [])
  | '_' :: c :: rest =>
    if isDigit c then
      let (digits, rest) := moreDigits isDigit rest
      (c :: digits, rest)
    else ([], '_' :: c :: rest)
  | c :: rest =>
    if isDigit c then
      let (digits, rest) := moreDigits isDigit rest
      (c :: digits, rest)
    else ([], c :: rest)

/-- A nonempty run of digits of a class, with single underscores between them. -/
def digitRun? (isDigit : Char → Bool) : List Char → Option (List Char × List Char)
  | c :: rest =>
    if isDigit c then
      let (digits, rest) := moreDigits isDigit rest
      some (c :: digits, rest)
    else none
  | [] => none

/-- The base a letter after a zero stands for. -/
def baseOf? : Char → Option Nat
  | 'x' => some 16
  | 'o' => some 8
  | 'b' => some 2
  | _ => none

/-- An integer in a base other than ten. -/
def basedInteger? : List Char → Option (Toml × List Char)
  | '0' :: mark :: rest => do
    let base ← baseOf? mark
    let (digits, rest) ← digitRun? (fun c => isHexDigit c && hexValue c < base) rest
    return (.integer (basedValue base digits), rest)
  | _ => none

/-- The digits before the point: a zero alone, or digits that do not begin with zero. -/
def wholePart? : List Char → Option (List Char × List Char)
  | '0' :: rest => some (['0'], rest)
  | chars => digitRun? Char.isDigit chars

/-- The digits after the point, if there are any. -/
def fraction? : List Char → Option (List Char × List Char)
  | '.' :: rest => digitRun? Char.isDigit rest
  | _ => none

def exponent? : List Char → Option (Int × List Char)
  | c :: rest => do
    if c = 'e' || c = 'E' then
      let (negative, rest) := Text.takeSign rest
      let (digits, rest) ← digitRun? Char.isDigit rest
      return (Text.signedValue negative digits, rest)
    else none
  | [] => none

/-- A decimal number: an integer, or a real where there is a fraction or an exponent. -/
def decimal? (chars : List Char) : Except Failure (Option (Toml × List Char)) :=
  let (negative, unsigned) := Text.takeSign chars
  match wholePart? unsigned with
  | none => .ok none
  | some (whole, afterWhole) =>
    let fraction := fraction? afterWhole
    let (digits, afterFraction) := fraction.getD ([], afterWhole)
    let exponent := exponent? afterFraction
    let (power, rest) := exponent.getD (0, afterFraction)
    if fraction.isSome || exponent.isSome then
      let d : Decimal := ⟨Text.digitsValue (whole ++ digits), power - digits.length⟩
      .ok (some (.real (d.nearest negative), rest))
    else if Text.digitLimit < whole.length then .error .overlongInteger
    else .ok (some (.integer (Text.signedValue negative whole), rest))

/-- The reals that have no digits. -/
def specialReal? (chars : List Char) : Option (Toml × List Char) :=
  let (negative, unsigned) := Text.takeSign chars
  match unsigned with
  | 'i' :: 'n' :: 'f' :: rest => some (.real (.infinite negative), rest)
  | 'n' :: 'a' :: 'n' :: rest => some (.real .notANumber, rest)
  | _ => none

/-! Dates and times. -/

/-- A number of exactly `width` digits within bounds. -/
def fixedNumber? (width low high : Nat) (chars : List Char) : Option (Nat × List Char) :=
  let digits := chars.take width
  let n := Text.digitsValue digits
  if digits.length = width && digits.all Char.isDigit && low ≤ n && n ≤ high then
    some (n, chars.drop width)
  else none

def mark? (mark : Char) : List Char → Option (List Char)
  | c :: rest => if c = mark then some rest else none
  | [] => none

/-- Whether a day of the calendar exists. The year is at least one. -/
def isDay (year month day : Nat) : Bool :=
  let isLeap := year % 4 = 0 && (year % 100 ≠ 0 || year % 400 = 0)
  let days := if month = 2 then (if isLeap then 29 else 28)
    else if [4, 6, 9, 11].contains month then 30 else 31
  1 ≤ year && day ≤ days

/-- A year, a month and a day; the result tells also whether there is such a day. -/
def date? (chars : List Char) : Option (Bool × List Char) := do
  let (year, rest) ← fixedNumber? 4 0 9999 chars
  let (month, rest) ← fixedNumber? 2 1 12 (← mark? '-' rest)
  let (day, rest) ← fixedNumber? 2 1 31 (← mark? '-' rest)
  return (isDay year month day, rest)

/-- What follows an hour and a minute. -/
def skipMinutes? (chars : List Char) : Option (List Char) := do
  let (_, rest) ← fixedNumber? 2 0 23 chars
  let (_, rest) ← fixedNumber? 2 0 59 (← mark? ':' rest)
  return rest

/-- What follows a time of day, which may have a fraction of a second. -/
def skipTime? (chars : List Char) : Option (List Char) := do
  let (_, rest) ← fixedNumber? 2 0 59 (← mark? ':' (← skipMinutes? chars))
  return match rest with
    | '.' :: c :: more => if c.isDigit then more.dropWhile Char.isDigit else rest
    | _ => rest

/-- What follows the distance from universal time, if one is given. -/
def skipOffset (chars : List Char) : List Char :=
  match chars with
  | c :: rest =>
    if c = 'Z' || c = 'z' then rest
    else if c = '+' || c = '-' then (skipMinutes? rest).getD chars
    else chars
  | [] => []

/-- What follows the time of day behind a date, if one is given. -/
def skipTimeOfDate (chars : List Char) : List Char :=
  match chars with
  | c :: rest =>
    if c = 'T' || c = 't' || c = ' ' then ((skipTime? rest).map skipOffset).getD chars
    else chars
  | [] => []

/-- A date, a time of day, or both. -/
def moment? (chars : List Char) : Except Failure (Option (Toml × List Char)) :=
  match date? chars with
  | some (true, rest) => .ok (some (.moment, skipTimeOfDate rest))
  | some (false, _) => .error .malformed
  | none => .ok ((skipTime? chars).map fun rest => (.moment, rest))

end Toml

end PiecewiseLang
