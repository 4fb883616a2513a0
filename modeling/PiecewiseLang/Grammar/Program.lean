import PiecewiseLang.Grammar.Expression

/-! Parsing of programs and of single expressions. -/
namespace PiecewiseLang

namespace Parser

/-- The parameters of a function, up to and with the closing parenthesis. -/
def parameters (function : String) : (bound : Nat) → (before : List String) →
    Parser (List String)
  | 0, _ => tooDeep
  | bound + 1, before => do
    if ← accept .rightParen then return before
    else
      let t ← expect .name (.parameter function)
      if t.text ∈ before then fail (.duplicateParameter t.text function) t.position
      else
        separator .rightParen (.parameterSeparator function)
        parameters function bound (before ++ [t.text])

section
variable (bound nesting : Nat)

def assignment : Parser Statement := do
  let _ ← advance
  let name ← expect .name .assignedName
  let _ ← expect .assign (.assignSign name.text)
  let value ← expression bound nesting .lowest
  let _ ← expect .semicolon (.endOfAssignment name.text)
  return .assignment name.text value

def declaration : Parser Statement := do
  let _ ← advance
  let name ← expect .name .functionName
  let _ ← expect .leftParen (.openParameters name.text)
  let names ← parameters name.text bound []
  let _ ← expect .assign (.bodySign name.text)
  let body ← expression bound nesting .lowest
  let _ ← expect .semicolon (.endOfDeclaration name.text)
  return .declaration name.text names body

def statement : Parser Statement := do
  match (← peek).kind with
  | .letWord => assignment bound nesting
  | .fnWord => declaration bound nesting
  | _ =>
    let value ← expression bound nesting .lowest
    let _ ← expect .semicolon .endOfExpression
    return .expression value

/-- Statements up to the end of input, at most as many as the last argument allows. -/
def statements : Nat → Parser (List Statement)
  | 0 => tooDeep
  | count + 1 => do
    if (← peek).kind = .endOfInput then return []
    else
      let first ← statement bound nesting
      return first :: (← statements count)

end

/-- A bound that no loop over the supply reaches. -/
def loopBound (supply : Supply) : Nat := supply.size + 2

end Parser

/-- The statements of a supply of tokens, with at most `nesting` expressions open. -/
def parseTokens (nesting : Nat) (supply : Supply) : Except ParseFailure (List Statement) := do
  let bound := Parser.loopBound supply
  let (program, _) ← (Parser.statements bound nesting bound).run (← Cursor.start supply)
  return program

/-- The statements of a list of tokens. To divide a text into tokens takes room of its own from
the parser; a list is divided already, so one more expression may be open. -/
def parseListed (nesting : Nat) (tokens : List Token) : Except ParseFailure (List Statement) :=
  parseTokens (nesting + 1) (.listed tokens)

/-- The statements of a source text. -/
def parseProgram (nesting : Nat) (source : String) : Except ParseFailure (List Statement) :=
  parseTokens nesting (.ofSource source)

/-- The one expression a source text consists of. -/
def parseExpr (nesting : Nat) (source : String) : Except ParseFailure Expr := do
  let supply := Supply.ofSource source
  let bound := Parser.loopBound supply
  let (e, last) ← (Parser.expression bound nesting .lowest).run (← Cursor.start supply)
  if last.current.kind = .endOfInput then return e
  else throw (.error ⟨.trailing last.current, some last.current.position⟩)

end PiecewiseLang
