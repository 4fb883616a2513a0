import PiecewiseLang.Text.Alphanumeric
import PiecewiseLang.Text.Numeral

/-! Arguments of actions in markup. An argument is the name of a handler, a name with literals
in parentheses behind it, or a literal. A literal is a number, a string, a constant word, or a
tuple, a set or a dictionary of literals; numbers may have a sign, and a real number may have
an imaginary one added. Only whether a text is a literal matters here, not its value. -/
namespace PiecewiseLang.Terminal

namespace Literal

/-- The words literals are made of. -/
inductive Word where
  | number (isImaginary : Bool)
  | string (isBytes : Bool)
  | constant
  /-- The name of the function that makes an empty set. -/
  | setName
  | mark (c : Char)
deriving DecidableEq, Repr

/-- Blanks between words. Line ends are among them only within brackets. -/
def isBlank (bracketed : Bool) (c : Char) : Bool :=
  c = ' ' || c = '\t' || c = '\x0c' || (bracketed && c = '\n')

def isNameChar (c : Char) : Bool := c.isAlphanum || c = '_'

def isHexDigit (c : Char) : Bool :=
  c.isDigit || ('a' ≤ c && c ≤ 'f') || ('A' ≤ c && c ≤ 'F')

/-! Numbers. -/

/-- Digits with single underscores between them, if they are all of a class. -/
def areDigits (isDigit : Char → Bool) : List Char → Bool
  | [] => false
  | [c] => isDigit c
  | c :: '_' :: rest => isDigit c && areDigits isDigit rest
  | c :: rest => isDigit c && areDigits isDigit rest

/-- Whether digits stand for an integer: no zero in front of a number other than zero, and
not more digits than an integer may have as text. -/
def isInteger (chars : List Char) : Bool :=
  areDigits Char.isDigit chars &&
    (chars.head? ≠ some '0' || chars.all fun c => c = '0' || c = '_') &&
    (chars.filter Char.isDigit).length ≤ Text.digitLimit

/-- Whether a number is an integer in a base other than ten. -/
def isBased : List Char → Bool
  | '0' :: mark :: digits =>
    let isDigit? : Option (Char → Bool) := match mark.toLower with
      | 'x' => some isHexDigit
      | 'o' => some fun c => '0' ≤ c && c ≤ '7'
      | 'b' => some fun c => c = '0' || c = '1'
      | _ => none
    let digits := if digits.head? = some '_' then digits.drop 1 else digits
    isDigit?.any (areDigits · digits)
  | _ => false

/-- Whether a number has a fraction, an exponent or both. -/
def isReal (chars : List Char) : Bool :=
  let isMark := fun c : Char => c = 'e' || c = 'E'
  let mantissa := chars.takeWhile (!isMark ·)
  let exponent := chars.dropWhile (!isMark ·)
  let whole := mantissa.takeWhile (· ≠ '.')
  let fraction := (mantissa.dropWhile (· ≠ '.')).drop 1
  let hasPoint := mantissa.contains '.'
  let digits := areDigits Char.isDigit
  (hasPoint || !exponent.isEmpty) && !(whole.isEmpty && fraction.isEmpty) &&
    (whole.isEmpty || digits whole) && (fraction.isEmpty || digits fraction) &&
    (exponent.isEmpty || digits (Text.takeSign (exponent.drop 1)).2)

/-- What a number is, if it is one: imaginary where a letter says so. -/
def number? (chars : List Char) : Option Word :=
  let isImaginary := chars.getLast?.any fun c => c = 'j' || c = 'J'
  if isBased chars then some (.number false)
  else if isImaginary then
    let digits := chars.dropLast
    if areDigits Char.isDigit digits || isReal digits then some (.number true) else none
  else if isInteger chars || isReal chars then some (.number false)
  else none

/-- The characters of a number. A sign behind one of the given marks is among them. -/
def numberChars (marks : List Char) : (afterMark : Bool) → List Char → List Char × List Char
  | _, [] => ([], [])
  | afterMark, c :: rest =>
    if isNameChar c || c = '.' || (afterMark && (c = '+' || c = '-')) then
      let (chars, rest) := numberChars marks (marks.contains c) rest
      (c :: chars, rest)
    else ([], c :: rest)

/-- The marks of an exponent. They are digits in base sixteen. -/
def exponentMarks (chars : List Char) : List Char :=
  if ["0x", "0X"].contains (String.ofList (chars.take 2)) then [] else ['e', 'E']

/-! Strings. -/

/-- What a string is, by the letters in front of it: whether escapes count, and whether it
is one of bytes. -/
def stringKind? (letters : List Char) : Option (Bool × Bool) :=
  match String.ofList (letters.map Char.toLower) with
  | "" | "u" => some (true, false)
  | "r" => some (false, false)
  | "b" => some (true, true)
  | "br" | "rb" => some (false, true)
  | _ => none

/-- How many hexadecimal digits follow the letter of an escape. -/
def escapeDigits (isBytes : Bool) : Char → Nat
  | 'x' => 2
  | 'u' => if isBytes then 0 else 4
  | 'U' => if isBytes then 0 else 8
  | _ => 0

/-- Whether the digits of an escape name a character. -/
def isEscape (digits : List Char) : Bool :=
  digits.all isHexDigit &&
    digits.foldl (fun value c => 16 * value +
      (if c.isDigit then c.toNat - '0'.toNat else c.toLower.toNat - 'a'.toNat + 10)) 0 < 0x110000

/-- What follows the end of a string. The bound is on the number of characters. -/
def afterString? (escapes isBytes : Bool) (ending : List Char) :
    (bound : Nat) → List Char → Option (List Char)
  | 0, _ => none
  | bound + 1, chars =>
    if ending.isPrefixOf chars then some (chars.drop ending.length)
    else match chars with
      | '\\' :: c :: rest =>
        let width := if escapes then escapeDigits isBytes c else 0
        let digits := rest.take width
        if digits.length = width && isEscape digits && (!isBytes || c.toNat < 0x80) then
          afterString? escapes isBytes ending bound (rest.drop width)
        else none
      | c :: rest =>
        if (c = '\n' && ending.length = 1) || (isBytes && 0x80 ≤ c.toNat) then none
        else afterString? escapes isBytes ending bound rest
      | [] => none

/-- A string, given the letters in front of it and the text from its quotation mark on. -/
def string? (bound : Nat) (letters : List Char) (chars : List Char) :
    Option (Word × List Char) := do
  let (escapes, isBytes) ← stringKind? letters
  let mark ← chars.head?
  let width := if chars.take 3 = [mark, mark, mark] then 3 else 1
  let rest ← afterString? escapes isBytes (List.replicate width mark) bound (chars.drop width)
  return (.string isBytes, rest)

/-! Words. -/

def isQuote (c : Char) : Bool := c = '\'' || c = '"'

/-- The word that begins with `c`. -/
def word? (bound : Nat) (c : Char) (rest : List Char) : Option (Word × List Char) :=
  let chars := c :: rest
  if c.isDigit || (c = '.' && rest.head?.any Char.isDigit) then
    let (digits, rest) := numberChars (exponentMarks chars) false chars
    (number? digits).map (·, rest)
  else if isQuote c then string? bound [] chars
  else if isNameChar c then
    let name := chars.takeWhile isNameChar
    let rest := chars.dropWhile isNameChar
    if rest.head?.any isQuote then string? bound name rest
    else match String.ofList name with
      | "True" | "False" | "None" => some (.constant, rest)
      | "set" => some (.setName, rest)
      | _ => none
  else if chars.take 3 = ['.', '.', '.'] then some (.constant, rest.drop 2)
  else if ['(', ')', '{', '}', ',', ':', '+', '-'].contains c then some (.mark c, rest)
  else none

/-- How many brackets are open behind a word. -/
def openBehind (brackets : Nat) : Word → Nat
  | .mark c =>
    if c = '(' || c = '{' then brackets + 1
    else if c = ')' || c = '}' then brackets - 1
    else brackets
  | _ => brackets

/-- The words of a text, which may have comments, with some brackets open in front of it. -/
def words? : (bound brackets : Nat) → List Char → Option (List Word)
  | 0, _, _ => none
  | bound + 1, brackets, chars =>
    match chars.dropWhile (isBlank (0 < brackets)) with
    | [] => some []
    | '#' :: rest => words? bound brackets (rest.dropWhile (· ≠ '\n'))
    | c :: rest => do
      let (word, rest) ← word? (bound + 1) c rest
      return word :: (← words? bound (openBehind brackets word) rest)

/-! Literals. -/

/-- What a literal is, as far as it decides where the literal may stand. -/
inductive Shape where
  | real | imaginary
  /-- A number with a sign; only a real one may have an imaginary one added. -/
  | signed (isImaginary : Bool)
  | string (isBytes : Bool)
  /-- Anything else. Only what does not change may be a key or a member of a set. -/
  | other (isFixed : Bool)
deriving DecidableEq, Repr

def Shape.isFixed : Shape → Bool
  | .other isFixed => isFixed
  | _ => true

/-- Reads a literal off the front of a text. -/
abbrev Reader := List Word → Option (Shape × List Word)

section
variable (deeper : Reader)

/-- Members of a tuple up to and with the closing parenthesis, behind one or more others. -/
def tupleRest : (bound : Nat) → (isFixed : Bool) → Reader
  | 0, _, _ => none
  | bound + 1, isFixed, words =>
    match words with
    | .mark ')' :: rest => some (.other isFixed, rest)
    | .mark ',' :: .mark ')' :: rest => some (.other isFixed, rest)
    | .mark ',' :: rest => do
      let (shape, rest) ← deeper rest
      tupleRest bound (isFixed && shape.isFixed) rest
    | _ => none

/-- What stands in parentheses: a tuple, or one literal without a comma. -/
def parenthesis (bound : Nat) : Reader := fun words =>
  match words with
  | .mark ')' :: rest => some (.other true, rest)
  | _ => do
    let (shape, rest) ← deeper words
    match rest with
    | .mark ')' :: rest => return (shape, rest)
    | _ => tupleRest deeper bound shape.isFixed rest

/-- Members of a set, or entries of a dictionary, up to and with the closing brace. -/
def braceRest (isDictionary : Bool) : (bound : Nat) → Reader
  | 0, _ => none
  | bound + 1, words => do
    let (shape, rest) ← deeper words
    if !shape.isFixed then none
    let rest ← if !isDictionary then some rest
      else match rest with
        | .mark ':' :: rest => (deeper rest).map (·.2)
        | _ => none
    match rest with
    | .mark '}' :: rest | .mark ',' :: .mark '}' :: rest => return (.other false, rest)
    | .mark ',' :: rest => braceRest isDictionary bound rest
    | _ => none

/-- What stands in braces. Without entries it is a dictionary. -/
def brace (bound : Nat) : Reader := fun words =>
  match words with
  | .mark '}' :: rest => some (.other false, rest)
  | _ => match deeper words with
    | some (_, .mark ':' :: _) => braceRest deeper true bound words
    | _ => braceRest deeper false bound words

/-- Strings behind a first one, which make one string if they are of the same sort. -/
def stringRest (isBytes : Bool) : Reader
  | .string other :: rest => if other = isBytes then stringRest isBytes rest else none
  | words => some (.string isBytes, words)

/-- A literal without a sign and with nothing added to it. -/
def atom (bound : Nat) : Reader := fun words =>
  match words with
  | .number isImaginary :: rest => some (if isImaginary then .imaginary else .real, rest)
  | .string isBytes :: rest => stringRest isBytes rest
  | .constant :: rest => some (.other true, rest)
  | .setName :: .mark '(' :: .mark ')' :: rest => some (.other false, rest)
  | .mark '(' :: rest => parenthesis deeper bound rest
  | .mark '{' :: rest => brace deeper bound rest
  | _ => none

/-- A literal that may have a sign in front. -/
def signed (bound : Nat) : Reader := fun words =>
  let sign := fun (rest : List Word) => do
    match ← atom deeper bound rest with
    | (.real, rest) => some (Shape.signed false, rest)
    | (.imaginary, rest) => some (Shape.signed true, rest)
    | _ => none
  match words with
  | .mark '+' :: rest | .mark '-' :: rest => sign rest
  | _ => atom deeper bound words

/-- A number with an imaginary one behind it, or any other literal by itself. -/
def sum (bound : Nat) : Reader := fun words => do
  let (left, rest) ← signed deeper bound words
  match rest with
  | .mark '+' :: rest | .mark '-' :: rest =>
    match left, ← atom deeper bound rest with
    | .real, (.imaginary, rest) | .signed false, (.imaginary, rest) =>
      match rest with
      | .mark '+' :: _ | .mark '-' :: _ => none
      | _ => return (.other true, rest)
    | _, _ => none
  | _ => return (left, rest)

end

/-- A literal with at most `bound` others open around it. -/
def read (bound : Nat) : (depth : Nat) → Reader
  | 0, _ => none
  | depth + 1, words => sum (read bound depth) bound words

/-- What is left of a tuple without parentheses behind its first member. -/
def isTupleRest (deeper : Reader) : (bound : Nat) → List Word → Bool
  | 0, _ => false
  | bound + 1, words =>
    match words with
    | [] | [.mark ','] => true
    | .mark ',' :: rest =>
      match deeper rest with
      | some (_, rest) => isTupleRest deeper bound rest
      | none => false
    | _ => false

end Literal

/-- Whether a text is a literal, or a tuple of literals without parentheses. -/
def isLiteral (chars : List Char) : Bool :=
  let bound := chars.length + 1
  match Literal.words? bound 0 chars with
  | none => false
  | some words =>
    let deeper := Literal.read bound bound
    match deeper words with
    | none => false
    | some (_, rest) => Literal.isTupleRest deeper bound rest

/-- Letters, numerals, underscores and points, of which the name of a handler is made. -/
def isHandlerChar (c : Char) : Bool := Text.isAlphanumeric c || c = '_' || c = '.'

/-- Whether a text without blanks around it is the argument of an action. -/
def isActionArgument (chars : List Char) : Bool :=
  let rest := chars.dropWhile isHandlerChar
  let isCall := rest.head? = some '(' && rest.getLast? = some ')' && !rest.contains '\n'
  if rest.isEmpty then true else isLiteral (if isCall then rest else chars)

end PiecewiseLang.Terminal
