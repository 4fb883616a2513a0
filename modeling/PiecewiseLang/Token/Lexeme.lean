import PiecewiseLang.Binary64.Decimal
import PiecewiseLang.Fault
import PiecewiseLang.Token

/-! Lexemes: the stretch of text one token is made of. Reading never rejects a character;
what no rule covers is an illegal lexeme. The longest run wins for words and numerals, and a
mark of two or three characters wins over its first character. -/
namespace PiecewiseLang

/-- What stands at the front of a text: the token it makes and how many characters it takes. -/
structure Lexeme where
  kind : TokenKind
  text : String
  width : Nat
deriving DecidableEq, Repr

namespace Lexeme

def keywords : List (String × TokenKind) :=
  [("and", .andWord), ("or", .orWord), ("xor", .xorWord), ("not", .notWord),
    ("true", .trueWord), ("false", .falseWord), ("undefined", .undefinedWord), ("if", .ifWord),
    ("else", .elseWord), ("let", .letWord), ("fn", .fnWord), ("as", .asWord), ("in", .inWord)]

/-- Marks of one character. -/
def singles : List (Char × TokenKind) :=
  [('+', .plus), ('-', .minus), ('*', .star), ('/', .slash), ('%', .percent), ('^', .caret),
    ('!', .bang), ('?', .question), ('=', .assign), ('<', .less), ('>', .greater), ('|', .bar),
    ('\\', .difference), ('(', .leftParen), (')', .rightParen), ('{', .leftBrace),
    ('}', .rightBrace), ('[', .leftBracket), (']', .rightBracket), (',', .comma),
    (';', .semicolon), (':', .colon)]

/-- Marks of two characters. -/
def doubles : List ((Char × Char) × TokenKind) :=
  [(('=', '='), .equal), (('<', '='), .lessEqual), (('>', '='), .greaterEqual),
    (('\\', '/'), .union), (('/', '\\'), .intersection)]

/-- Marks of three characters, by the two characters that commit to one. -/
def triples : List ((Char × Char) × (Char × TokenKind)) :=
  [(('=', '/'), ('=', .notEqual)), (('+', '/'), ('-', .plusMinus)),
    (('-', '/'), ('+', .minusPlus)), (('/', '_'), ('\\', .symmetricDifference))]

/-- Single characters that stand for a token spelled otherwise. -/
def aliases : List (Char × (TokenKind × String)) :=
  [('±', (.plusMinus, "+/-")), ('∓', (.minusPlus, "-/+")), ('≤', (.lessEqual, "<=")),
    ('≥', (.greaterEqual, ">=")), ('≠', (.notEqual, "=/=")), ('∪', (.union, "\\/")),
    ('∩', (.intersection, "/\\")), ('∖', (.difference, "\\")),
    ('△', (.symmetricDifference, "/_\\")), ('∈', (.inWord, "in")), ('¬', (.notWord, "not")),
    ('⊂', (.less, "<")), ('⊆', (.lessEqual, "<="))]

/-- Letters, digits and the underscore continue a word; only a letter begins one. -/
def isWordChar (c : Char) : Bool := c.isAlphanum || c = '_'

def isNumeralChar (c : Char) : Bool := c.isDigit || c = '.'

/-- A lexeme that takes exactly the characters of its text. -/
def verbatim (kind : TokenKind) (chars : List Char) : Lexeme :=
  ⟨kind, String.ofList chars, chars.length⟩

def word (chars : List Char) : Lexeme :=
  verbatim ((keywords.lookup (String.ofList chars)).getD .name) chars

/-- The greatest integer a token can hold; a longer run of digits is a real. -/
def integerMax : Nat := 9223372036854775807

/-- The lexeme of a run of digits and points. -/
def numeral (chars : List Char) : Except Fault Lexeme :=
  let real := match Double.read? (String.ofList chars) with
    | some (.finite _) => verbatim .real chars
    | _ => verbatim .illegal chars
  if chars.contains '.' then .ok real
  else if Text.digitLimit < chars.length then .error .overlongInteger
  else if Text.digitsValue chars ≤ integerMax then .ok (verbatim .integer chars)
  else .ok real

def single (c : Char) : Lexeme := verbatim ((singles.lookup c).getD .illegal) [c]

/-- The mark that begins with `c`. -/
def mark (c : Char) (rest : List Char) : Lexeme :=
  match aliases.lookup c, rest with
  | some (kind, text), _ => ⟨kind, text, 1⟩
  | none, [] => single c
  | none, d :: more =>
    match doubles.lookup (c, d), triples.lookup (c, d) with
    | some kind, _ => verbatim kind [c, d]
    | none, none => single c
    | none, some (third, kind) =>
      match more with
      | [] => verbatim .illegal [c, d]
      | e :: _ => verbatim (if e = third then kind else .illegal) [c, d, e]

/-- The lexeme that begins with `c`. Digits that run into a letter or an underscore are
illegal, and the next lexeme begins after them. -/
def scan (c : Char) (rest : List Char) : Except Fault Lexeme :=
  if c.isAlpha then .ok (word (c :: rest.takeWhile isWordChar))
  else if c.isDigit && (rest.dropWhile Char.isDigit).head?.any isWordChar then
    .ok (verbatim .illegal (c :: rest.takeWhile Char.isDigit))
  else if isNumeralChar c then numeral (c :: rest.takeWhile isNumeralChar)
  else .ok (mark c rest)

end Lexeme

end PiecewiseLang
