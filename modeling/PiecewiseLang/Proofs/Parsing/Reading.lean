import PiecewiseLang.Proofs.Parsing.Passage

/-! What the parser reads, as rules on words. Each rule gives the words passed, the kind of
the token in view afterwards where that matters, and the tree. The rules carry the binding
strengths but none of the two bounds of the parser, and they leave no choice: an operand is
extended exactly as far as the token that follows allows. -/
namespace PiecewiseLang

namespace TokenKind

/-- The binding strength of a token between two operands. -/
def binding? (kind : TokenKind) : Option Precedence :=
  kind.infixSymbol?.bind Operator.infixPrecedence?

/-- Whether an expression at the level of `precedence` ends before a token of this kind. -/
def endsAt (precedence : Precedence) (kind : TokenKind) : Bool :=
  kind.endsExpression || kind.binding?.any (·.level ≤ precedence.level)

theorem endsAt_of_ends {kind : TokenKind} (ends : kind.endsExpression = true) :
    kind.endsAt precedence = true := by simp [endsAt, ends]

theorem endsAt_of_weak {kind : TokenKind} (found : kind.infixSymbol? = some symbol)
    (strength : Operator.infixPrecedence? symbol = some binding)
    (weak : binding.level ≤ precedence.level) : kind.endsAt precedence = true := by
  simp [endsAt, binding?, found, strength, weak]

/-- Only an opening parenthesis stands for a call. -/
theorem leftParen_of_call {kind : TokenKind} (found : kind.infixSymbol? = some .call) :
    kind = .leftParen := by
  cases kind <;> simp_all [infixSymbol?]

/-- A token between two operands neither ends an expression nor is a factorial sign. -/
theorem continues_of_infixSymbol {kind : TokenKind} (found : kind.infixSymbol? = some symbol) :
    kind.endsExpression = false ∧ kind ≠ .bang := by
  cases kind <;> simp_all [infixSymbol?, endsExpression]

/-- The tokens an operand can begin with. -/
def beginsOperand : TokenKind → Bool
  | .name | .integer | .real | .trueWord | .falseWord | .undefinedWord => true
  | .notWord | .minus | .leftParen | .bar | .leftBrace => true
  | _ => false

/-- The tokens that stand before an operand. -/
theorem prefixSymbol_cases {kind : TokenKind} (found : kind.prefixSymbol? = some symbol) :
    kind = .notWord ∧ symbol = .not ∨ kind = .minus ∧ symbol = .sub := by
  cases kind <;> simp_all [prefixSymbol?]

end TokenKind

namespace Reading

mutual

inductive Operand : List Word → TokenKind → Expr → Prop where
  | name : Operand [⟨.name, text⟩] next (.name text)
  | integer : Text.readInteger text = some n → Operand [⟨.integer, text⟩] next (.integer n)
  | real : Double.read? text = some x → Operand [⟨.real, text⟩] next (.real x)
  | trueWord : Operand [⟨.trueWord, text⟩] next (.boolean true)
  | falseWord : Operand [⟨.falseWord, text⟩] next (.boolean false)
  | undefinedWord : Operand [⟨.undefinedWord, text⟩] next .undefined
  | prefixed : kind.prefixSymbol? = some symbol → Expression .unary words next e →
      Operand (⟨kind, text⟩ :: words) next (.combination ⟨symbol, .prefixed⟩ none (some e))
  | parens : Expression .lowest words .rightParen e →
      Operand (⟨.leftParen, text⟩ :: (words ++ [⟨.rightParen, text'⟩])) next e
  | bars : Expression .lowest words .bar e →
      Operand (⟨.bar, text⟩ :: (words ++ [⟨.bar, text'⟩])) next (.magnitude e)
  | emptySet : Operand [⟨.leftBrace, text⟩, ⟨.rightBrace, text'⟩] next (.set [])
  | set : Expression .lowest words (headKind rest next) e → Members rest es →
      Operand (⟨.leftBrace, text⟩ :: (words ++ rest)) next (.set (e :: es))
  | piecewise : Expression .lowest words (headKind rest next) e → Arms false e rest arms →
      Operand (⟨.leftBrace, text⟩ :: (words ++ rest)) next (.piecewise arms)

/-- An expression at a level: an operand and what extends it. -/
inductive Expression : Precedence → List Word → TokenKind → Expr → Prop where
  | intro : Operand words (headKind rest next) left → Climb precedence left rest next e →
      Expression precedence (words ++ rest) next e

/-- The extension of `left` by the operators that bind more strongly than `precedence`. -/
inductive Climb : Precedence → Expr → List Word → TokenKind → Expr → Prop where
  | done : next.endsAt precedence = true → Climb precedence left [] next left
  | factorial : Climb precedence (.combination ⟨.factorial, .postfixed⟩ (some left) none)
        words next e →
      Climb precedence left (⟨.bang, text⟩ :: words) next e
  | call : precedence.level < Precedence.call.level → Arguments words arguments →
      Climb precedence (.call left arguments) rest next e →
      Climb precedence left (⟨.leftParen, text⟩ :: (words ++ rest)) next e
  | infixed : kind.infixSymbol? = some symbol → symbol ≠ .call →
      Operator.infixPrecedence? symbol = some binding → precedence.level < binding.level →
      Expression binding words (headKind rest next) right →
      Climb precedence (.combination ⟨symbol, .infixed⟩ (some left) (some right)) rest next e →
      Climb precedence left (⟨kind, text⟩ :: (words ++ rest)) next e

/-- The arguments of a call, with the closing parenthesis. -/
inductive Arguments : List Word → List Expr → Prop where
  | done : Arguments [⟨.rightParen, text⟩] []
  | last : Expression .lowest words .rightParen e →
      Arguments (words ++ [⟨.rightParen, text⟩]) [e]
  | more : Expression .lowest words .comma e → Arguments rest es →
      Arguments (words ++ ⟨.comma, text⟩ :: rest) (e :: es)

/-- The members of a set after the first one, with the closing brace. -/
inductive Members : List Word → List Expr → Prop where
  | done : Members [⟨.rightBrace, text⟩] []
  | trailing : Members [⟨.comma, text⟩, ⟨.rightBrace, text'⟩] []
  | more : Expression .lowest words (headKind rest next) e → Members rest es →
      Members (⟨.comma, text⟩ :: (words ++ rest)) (e :: es)

/-- The guard of an arm and whether it is the `else` of its block. -/
inductive Guard : Bool → List Word → Bool → Expr → Prop where
  | condition : Expression .lowest words .semicolon e →
      Guard seenElse (⟨.ifWord, text⟩ :: words) false e
  | otherwise : Guard false [⟨.elseWord, text⟩] true (.boolean true)

/-- The arms of a block from the guard of `value` on, with the closing brace. -/
inductive Arms : Bool → Expr → List Word → List (Expr × Expr) → Prop where
  | last : Guard seenElse words isElse g →
      Arms seenElse value (words ++ [⟨.semicolon, text⟩, ⟨.rightBrace, text'⟩]) [(value, g)]
  | more : Guard seenElse words isElse g →
      Expression .lowest words' (headKind rest next) value' →
      Arms (seenElse || isElse) value' rest arms →
      Arms seenElse value (words ++ ⟨.semicolon, text⟩ :: (words' ++ rest))
        ((value, g) :: arms)

end

/-- The parameters of a function after those before, with the closing parenthesis. -/
inductive Parameters : List String → List Word → List String → Prop where
  | done : Parameters before [⟨.rightParen, text⟩] before
  | last : name ∉ before →
      Parameters before [⟨.name, name⟩, ⟨.rightParen, text⟩] (before ++ [name])
  | more : name ∉ before → Parameters (before ++ [name]) words names →
      Parameters before (⟨.name, name⟩ :: ⟨.comma, text⟩ :: words) names

inductive Statement : List Word → PiecewiseLang.Statement → Prop where
  | assignment : Expression .lowest words .semicolon e →
      Statement (⟨.letWord, text₁⟩ :: ⟨.name, name⟩ :: ⟨.assign, text₂⟩ ::
        (words ++ [⟨.semicolon, text₃⟩])) (.assignment name e)
  | declaration : Parameters [] words names → Expression .lowest words' .semicolon e →
      Statement (⟨.fnWord, text₁⟩ :: ⟨.name, name⟩ :: ⟨.leftParen, text₂⟩ ::
        (words ++ ⟨.assign, text₃⟩ :: (words' ++ [⟨.semicolon, text₄⟩])))
        (.declaration name names e)
  | expression : Expression .lowest words .semicolon e →
      Statement (words ++ [⟨.semicolon, text⟩]) (.expression e)

inductive Program : List Word → List PiecewiseLang.Statement → Prop where
  | done : Program [] []
  | more : Statement words statement → Program rest program →
      Program (words ++ rest) (statement :: program)

end Reading

end PiecewiseLang
