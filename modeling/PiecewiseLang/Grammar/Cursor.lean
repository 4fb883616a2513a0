import PiecewiseLang.Grammar.ParseError
import PiecewiseLang.Token.Supply

/-! The cursor of a parser: one token in view and the supply of those behind it. The token
in view is drawn as soon as the one before it is passed, so a fault in it comes before any
error that the parser would raise next. The end of input is never passed. -/
namespace PiecewiseLang

structure Cursor where
  current : Token
  supply : Supply

/-- A step of parsing: reads the cursor, moves it, and gives a result or fails. -/
abbrev Parser := StateT Cursor (Except ParseFailure)

namespace Cursor

/-- Draws the next token. A supply that has run out ends the input at `position`. -/
def draw (position : Int) (supply : Supply) : Except ParseFailure Cursor :=
  match supply.next with
  | .error fault => .error (.fault fault)
  | .ok none => .ok ⟨⟨.endOfInput, "", position⟩, supply⟩
  | .ok (some (t, rest)) => .ok ⟨t, rest⟩

/-- The cursor at the first token of a supply. -/
def start (supply : Supply) : Except ParseFailure Cursor := draw 0 supply

/-- The cursor past the token in view. -/
def advance (c : Cursor) : Except ParseFailure Cursor :=
  if c.current.kind = .endOfInput then .ok c else draw c.current.position c.supply

end Cursor

namespace Parser

def fail {α : Type} (cause : ParseError.Cause) (position : Int) : Parser α :=
  throw (.error ⟨cause, some position⟩)

/-- The token in view. -/
def peek : Parser Token := return (← get).current

/-- Fails at the token in view, where the nesting allowance is used up. -/
def tooDeep {α : Type} : Parser α := do fail .nestedTooDeeply (← peek).position

/-- Passes the token in view and returns it. -/
def advance : Parser Token := do
  let c ← get
  set (← c.advance)
  return c.current

/-- Fails at the token in view, which is not what the grammar asks for. -/
def reject {α : Type} (what : Expectation) : Parser α := do
  let t ← peek
  fail (.expected what t) t.position

/-- Passes a token of the given kind and fails at any other. -/
def expect (kind : TokenKind) (what : Expectation) : Parser Token := do
  if (← peek).kind = kind then advance else reject what

/-- Passes the token in view if it is of the given kind, and tells whether it was. -/
def accept (kind : TokenKind) : Parser Bool := do
  if (← peek).kind = kind then
    let _ ← advance
    return true
  else return false

end Parser

end PiecewiseLang
