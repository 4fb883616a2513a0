import PiecewiseLang.Expr
import PiecewiseLang.Grammar.Cursor

/-! Parsing of expressions by precedence climbing. An infix operator is taken only if it
binds more strongly than the operator to its left, so every operator groups to the left; a
factorial sign is always taken. An expression ends before a token that ends expressions and
leaves that token to the rule around it.

Two quantities bound the work. `nesting` is the number of expressions that may be open
inside one another, and each expression hands one less to the expressions inside it. `bound`
is the number of rounds a loop may take; every round passes a token, so a bound above the
number of tokens is never reached. -/
namespace PiecewiseLang

namespace TokenKind

/-- The symbol a token stands for between two operands, a call's parenthesis included. -/
def infixSymbol? : TokenKind → Option Symbol
  | .plus => some .add
  | .minus => some .sub
  | .star => some .mul
  | .slash => some .div
  | .percent => some .mod
  | .caret => some .pow
  | .plusMinus => some .plusMinus
  | .minusPlus => some .minusPlus
  | .equal => some .eq
  | .notEqual => some .ne
  | .less => some .lt
  | .lessEqual => some .le
  | .greater => some .gt
  | .greaterEqual => some .ge
  | .andWord => some .and
  | .orWord => some .or
  | .xorWord => some .xor
  | .notWord => some .not
  | .question => some .coalesce
  | .inWord => some .mem
  | .asWord => some .cast
  | .leftParen => some .call
  | .union => some .union
  | .intersection => some .intersection
  | .difference => some .difference
  | .symmetricDifference => some .symmetricDifference
  | _ => none

/-- The symbol a token stands for before an operand. -/
def prefixSymbol? : TokenKind → Option Symbol
  | .notWord => some .not
  | .minus => some .sub
  | _ => none

/-- The tokens before which an expression ends. -/
def endsExpression : TokenKind → Bool
  | .semicolon | .rightParen | .comma | .ifWord | .elseWord | .rightBrace | .bar => true
  | .endOfInput => true
  | _ => false

end TokenKind

namespace Parser

/-- The number a token writes. -/
def literal (read : String → Option α) (t : Token) : Parser α :=
  match read t.text with
  | some value => return value
  | none => throw (.fault .malformedNumeral)

/-- After an item of a list: passes a comma, or stays before the closing token. -/
def separator (closing : TokenKind) (what : Expectation) : Parser Unit := do
  if ← accept .comma then return
  else if (← peek).kind = closing then return
  else reject what

section
variable (deeper : Precedence → Parser Expr)

/-- The arguments of a call, up to and with the closing parenthesis. -/
def arguments : (bound : Nat) → Parser (List Expr)
  | 0 => tooDeep
  | bound + 1 => do
    if ← accept .rightParen then return []
    else
      let first ← deeper .lowest
      separator .rightParen .argumentSeparator
      return first :: (← arguments bound)

/-- The members of a set after the first one, up to and with the closing brace. -/
def members : (bound : Nat) → Parser (List Expr)
  | 0 => tooDeep
  | bound + 1 => do
    if ← accept .rightBrace then return []
    else
      let _ ← expect .comma .memberSeparator
      if ← accept .rightBrace then return []
      else
        let first ← deeper .lowest
        return first :: (← members bound)

/-- The guard of an arm: a condition, or `true` after the one `else` a block may have. The
result tells whether it was the `else`. -/
def guardOf (seenElse : Bool) : Parser (Bool × Expr) := do
  let t ← peek
  if ← accept .ifWord then return (false, ← deeper .lowest)
  else if ← accept .elseWord then
    if seenElse then fail .secondElse t.position else return (true, .boolean true)
  else reject .armCondition

/-- The arms of a piecewise block from the guard of `value` on, up to and with the brace. -/
def arms : (bound : Nat) → (seenElse : Bool) → (value : Expr) → Parser (List (Expr × Expr))
  | 0, _, _ => tooDeep
  | bound + 1, seenElse, value => do
    let (isElse, guard) ← guardOf deeper seenElse
    let _ ← expect .semicolon .endOfArm
    if ← accept .rightBrace then return [(value, guard)]
    else
      let next ← deeper .lowest
      return (value, guard) :: (← arms bound (seenElse || isElse) next)

/-- What a brace opens: a set or a piecewise block, told apart after the first expression. -/
def brace (bound : Nat) : Parser Expr := do
  let opening ← advance
  if ← accept .rightBrace then return .set []
  else
    let first ← deeper .lowest
    match (← peek).kind with
    | .ifWord | .elseWord => return .piecewise (← arms deeper bound false first)
    | .comma | .rightBrace => return .set (first :: (← members deeper bound))
    | _ => reject (.braceContent opening.position)

/-- The expression up to its first infix operator or factorial sign. -/
def operand (bound : Nat) : Parser Expr := do
  let t ← peek
  match t.kind with
  | .name =>
    let _ ← advance
    return .name t.text
  | .integer =>
    let _ ← advance
    return .integer (← literal Text.readInteger t)
  | .real =>
    let _ ← advance
    return .real (← literal Double.read? t)
  | .trueWord =>
    let _ ← advance
    return .boolean true
  | .falseWord =>
    let _ ← advance
    return .boolean false
  | .undefinedWord =>
    let _ ← advance
    return .undefined
  | .leftParen =>
    let _ ← advance
    let inner ← deeper .lowest
    let _ ← expect .rightParen .closeParen
    return inner
  | .bar =>
    let _ ← advance
    let inner ← deeper .lowest
    let _ ← expect .bar .closeBar
    return .magnitude inner
  | .leftBrace => brace deeper bound
  | kind =>
    match kind.prefixSymbol? with
    | some symbol =>
      let _ ← advance
      return .combination ⟨symbol, .prefixed⟩ none (some (← deeper .unary))
    | none => fail (.noExpression t) t.position

/-- Extends `left` by the operators that bind more strongly than `precedence`. -/
def climb (rounds : Nat) (precedence : Precedence) : (bound : Nat) → (left : Expr) → Parser Expr
  | 0, _ => tooDeep
  | bound + 1, left => do
    let t ← peek
    if t.kind.endsExpression then return left
    else if t.kind = .bang then
      let _ ← advance
      climb rounds precedence bound (.combination ⟨.factorial, .postfixed⟩ (some left) none)
    else match t.kind.infixSymbol? with
      | none => fail (.unexpectedAfter t) t.position
      | some symbol =>
        let operator : Operator := ⟨symbol, .infixed⟩
        match operator.precedence? with
        | none => fail (.illegalOperator operator) t.position
        | some binding =>
          if binding.level ≤ precedence.level then return left
          else
            let _ ← advance
            if symbol = .call then
              climb rounds precedence bound (.call left (← arguments deeper rounds))
            else
              let right ← deeper binding
              climb rounds precedence bound (.combination operator (some left) (some right))

end

/-- An expression of operators that bind more strongly than `precedence`. -/
def expression (bound : Nat) : (nesting : Nat) → (precedence : Precedence) → Parser Expr
  | 0, _ => tooDeep
  | nesting + 1, precedence => do
    let left ← operand (expression bound nesting) bound
    climb (expression bound nesting) bound precedence bound left

end Parser

end PiecewiseLang
