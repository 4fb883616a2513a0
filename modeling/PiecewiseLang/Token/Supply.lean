import PiecewiseLang.Text.Blank
import PiecewiseLang.Token.Lexeme

/-! Supplies of tokens. A source text is read one token at a time, so a fault further on is
met only by a reader that gets there; a list of tokens is handed out as it is. -/
namespace PiecewiseLang

/-- Skips blanks and comments, which run from a number sign to the end of the line. The
first argument tells whether the text begins inside a comment; the position is kept along. -/
def skipTrivia : Bool → Nat → List Char → Nat × List Char
  | _, position, [] => (position, [])
  | true, position, c :: rest => skipTrivia (c ≠ '\n') (position + 1) rest
  | false, position, c :: rest =>
    if Text.isBlank c then skipTrivia false (position + 1) rest
    else if c = '#' then skipTrivia true (position + 1) rest
    else (position, c :: rest)

inductive Supply where
  /-- The rest of a source text, and whether its end has been handed out. -/
  | source (position : Nat) (rest : List Char) (ended : Bool)
  | listed (tokens : List Token)

namespace Supply

def ofSource (s : String) : Supply := .source 0 s.toList false

/-- The next token. The end of a source text is a token of its own, handed out once. -/
def next : Supply → Except Fault (Option (Token × Supply))
  | .listed [] => .ok none
  | .listed (t :: rest) => .ok (some (t, .listed rest))
  | .source position rest ended =>
    match skipTrivia false position rest with
    | (position, []) =>
      .ok (if ended then none else some (⟨.endOfInput, "", position⟩, .source position [] true))
    | (position, c :: rest) => do
      let lexeme ← Lexeme.scan c rest
      return some (⟨lexeme.kind, lexeme.text, position⟩,
        .source (position + lexeme.width) (rest.drop (lexeme.width - 1)) ended)

/-- A bound on the tokens a supply can still hand out. -/
def size : Supply → Nat
  | .listed tokens => tokens.length
  | .source _ rest ended => rest.length + if ended then 0 else 1

/-- The first tokens of a supply, at most as many as the first argument says. -/
def take : Nat → Supply → Except Fault (List Token)
  | 0, _ => .ok []
  | count + 1, supply => do
    match ← supply.next with
    | none => return []
    | some (t, rest) => return t :: (← take count rest)

/-- All tokens of a supply. -/
def toList (supply : Supply) : Except Fault (List Token) := supply.take supply.size

end Supply

/-- All tokens of a source text, the end of input included. -/
def tokenize (s : String) : Except Fault (List Token) := (Supply.ofSource s).toList

end PiecewiseLang
