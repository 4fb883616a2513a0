import PiecewiseLang.Text.Quoted

/-! Tokens: the words, numerals and marks a program is written in, each with the position
of its first character. -/
namespace PiecewiseLang

inductive TokenKind where
  | illegal | endOfInput
  | name | integer | real
  | andWord | orWord | xorWord | notWord | trueWord | falseWord | undefinedWord
  | ifWord | elseWord | letWord | fnWord | asWord | inWord
  | plus | minus | star | slash | percent | caret | bang | question | assign
  | equal | notEqual | less | lessEqual | greater | greaterEqual
  | plusMinus | minusPlus | bar
  | union | intersection | difference | symmetricDifference
  | leftParen | rightParen | leftBrace | rightBrace | leftBracket | rightBracket
  | comma | semicolon | colon
deriving DecidableEq, Repr

namespace TokenKind

/-- The name of a kind in listings. -/
def label : TokenKind → String
  | .illegal => "illegal"
  | .endOfInput => "eof"
  | .name => "ident"
  | .integer => "int"
  | .real => "real"
  | .andWord => "and"
  | .orWord => "or"
  | .xorWord => "xor"
  | .notWord => "not"
  | .trueWord => "true"
  | .falseWord => "false"
  | .undefinedWord => "undefined"
  | .ifWord => "if"
  | .elseWord => "else"
  | .letWord => "let"
  | .fnWord => "fn"
  | .asWord => "as"
  | .inWord => "in"
  | .plus => "plus"
  | .minus => "minus"
  | .star => "star"
  | .slash => "slash"
  | .percent => "percent"
  | .caret => "caret"
  | .bang => "bang"
  | .question => "question"
  | .assign => "assign"
  | .equal => "eq"
  | .notEqual => "ne"
  | .less => "lt"
  | .lessEqual => "le"
  | .greater => "gt"
  | .greaterEqual => "ge"
  | .plusMinus => "plus_minus"
  | .minusPlus => "minus_plus"
  | .bar => "bar"
  | .union => "union"
  | .intersection => "intersection"
  | .difference => "difference"
  | .symmetricDifference => "symmetric_difference"
  | .leftParen => "lparen"
  | .rightParen => "rparen"
  | .leftBrace => "lbrace"
  | .rightBrace => "rbrace"
  | .leftBracket => "lbracket"
  | .rightBracket => "rbracket"
  | .comma => "comma"
  | .semicolon => "semicolon"
  | .colon => "colon"

def all : List TokenKind :=
  [.illegal, .endOfInput, .name, .integer, .real, .andWord, .orWord, .xorWord, .notWord,
    .trueWord, .falseWord, .undefinedWord, .ifWord, .elseWord, .letWord, .fnWord, .asWord,
    .inWord, .plus, .minus, .star, .slash, .percent, .caret, .bang, .question, .assign,
    .equal, .notEqual, .less, .lessEqual, .greater, .greaterEqual, .plusMinus, .minusPlus,
    .bar, .union, .intersection, .difference, .symmetricDifference, .leftParen, .rightParen,
    .leftBrace, .rightBrace, .leftBracket, .rightBracket, .comma, .semicolon, .colon]

/-- The kind with the given label. -/
def ofLabel? (text : String) : Option TokenKind := all.find? (·.label = text)

end TokenKind

structure Token where
  kind : TokenKind
  text : String
  /-- Counted from zero in a source text; tokens from elsewhere may stand anywhere. -/
  position : Int
deriving DecidableEq, Repr

namespace Token

/-- Two tokens are alike when they differ in position at most. -/
def alike (a b : Token) : Bool := a.kind = b.kind && a.text = b.text

/-- The first of each class of alike tokens, in order. -/
def distinct (tokens : List Token) : List Token :=
  tokens.foldl (fun kept t => if kept.any (t.alike ·) then kept else kept ++ [t]) []

/-- How messages refer to a token. -/
def describe (t : Token) : String :=
  match t.kind with
  | .endOfInput => "end of input"
  | .illegal => "illegal token `" ++ t.text ++ "`"
  | _ => "`" ++ t.text ++ "`"

/-- A token with all its fields, for inspection. -/
def inspect (t : Token) : String :=
  "Token(" ++ t.kind.label ++ ", " ++ Text.quoted t.text ++ ", pos=" ++ toString t.position ++ ")"

end Token

end PiecewiseLang
