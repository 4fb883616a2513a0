import PiecewiseLang.Proofs.Parsing.Entry

/-! The trees that programs are parsed into. Of all trees they are those whose names are
names, whose literals are the ones a numeral can write, whose operators are legal and have
the operands of their place, and whose blocks have an arm. -/
namespace PiecewiseLang

/-- Whether an operator in this place has a left and a right operand. -/
def Fixity.operands : Fixity → Bool × Bool
  | .prefixed => (false, true)
  | .infixed => (true, true)
  | .postfixed => (true, false)

/-- Whether an operator has a binding strength and is not the parenthesis of a call, which
has a tree of its own. -/
def Operator.isWritten (operator : Operator) : Bool :=
  operator.precedence?.isSome && operator ≠ ⟨.call, .infixed⟩

namespace Expr

mutual

def isWellFormed : Expr → Bool
  | .name n => Lexeme.isName n
  | .integer value => 0 ≤ value && value ≤ Lexeme.integerMax
  | .real (.finite x) => !x.negative
  | .real _ => false
  | .boolean _ | .undefined => true
  | .combination operator left right =>
    operator.isWritten && (left.isSome, right.isSome) = operator.fixity.operands &&
      operandWellFormed left && operandWellFormed right
  | .call callee arguments => callee.isWellFormed && allWellFormed arguments
  | .piecewise arms => !arms.isEmpty && armsWellFormed arms
  | .magnitude operand => operand.isWellFormed
  | .set members => allWellFormed members

def operandWellFormed : Option Expr → Bool
  | none => true
  | some e => e.isWellFormed

def allWellFormed : List Expr → Bool
  | [] => true
  | e :: rest => e.isWellFormed && allWellFormed rest

def armsWellFormed : List (Expr × Expr) → Bool
  | [] => true
  | (value, guard) :: rest => value.isWellFormed && guard.isWellFormed && armsWellFormed rest

end

end Expr

def Statement.isWellFormed : Statement → Bool
  | .assignment name e => Lexeme.isName name && e.isWellFormed
  | .declaration name parameters body =>
    Lexeme.isName name && parameters.all Lexeme.isName && parameters.Nodup && body.isWellFormed
  | .expression e => e.isWellFormed

namespace Reading

/-- All words of a list were scanned. -/
def Scanned (words : List Word) : Prop := ∀ w ∈ words, w.Lexical

@[simp] theorem scanned_nil : Scanned [] := nofun

@[simp] theorem scanned_cons : Scanned (w :: words) ↔ w.Lexical ∧ Scanned words := by
  simp [Scanned]

@[simp] theorem scanned_append : Scanned (first ++ second) ↔ Scanned first ∧ Scanned second := by
  simp only [Scanned, List.mem_append, or_imp, forall_and]

theorem infix_isWritten (strength : Operator.infixPrecedence? symbol = some binding)
    (other : symbol ≠ .call) : Operator.isWritten ⟨symbol, .infixed⟩ = true := by
  simp [Operator.isWritten, Operator.precedence?, strength, other]

theorem prefix_isWritten {kind : TokenKind} (found : kind.prefixSymbol? = some symbol) :
    Operator.isWritten ⟨symbol, .prefixed⟩ = true := by
  rcases TokenKind.prefixSymbol_cases found with ⟨-, rfl⟩ | ⟨-, rfl⟩ <;> rfl

open PiecewiseLang.Expr (isWellFormed operandWellFormed allWellFormed armsWellFormed)

mutual

theorem Operand.wellFormed : Operand words next e → Scanned words → e.isWellFormed = true
  | .name, scanned => by simpa [Word.Lexical, isWellFormed] using scanned
  | .integer read, scanned => by
    obtain ⟨⟨n, range, value⟩, -⟩ := scanned_cons.mp scanned
    rw [value] at read
    cases read
    simp [isWellFormed, Int.ofNat_le.mpr range]
  | .real read, scanned => by
    obtain ⟨⟨x, plain, value⟩, -⟩ := scanned_cons.mp scanned
    rw [value] at read
    cases read
    simp [isWellFormed, plain]
  | .trueWord, _ | .falseWord, _ | .undefinedWord, _ | .emptySet, _ => by
    simp [isWellFormed, allWellFormed]
  | .prefixed found expression, scanned => by
    have right := expression.wellFormed (scanned_cons.mp scanned).2
    simp [isWellFormed, operandWellFormed, prefix_isWritten found, Fixity.operands, right]
  | .parens expression, scanned =>
    expression.wellFormed (scanned_append.mp (scanned_cons.mp scanned).2).1
  | .bars expression, scanned => by
    rw [isWellFormed]
    exact expression.wellFormed (scanned_append.mp (scanned_cons.mp scanned).2).1
  | .set expression members, scanned => by
    obtain ⟨first, others⟩ := scanned_append.mp (scanned_cons.mp scanned).2
    simp [isWellFormed, allWellFormed, expression.wellFormed first, members.wellFormed others]
  | .piecewise expression arms, scanned => by
    obtain ⟨first, others⟩ := scanned_append.mp (scanned_cons.mp scanned).2
    obtain ⟨some, all⟩ := arms.wellFormed (expression.wellFormed first) others
    simp [isWellFormed, some, all]

theorem Expression.wellFormed : Expression precedence words next e → Scanned words →
    e.isWellFormed = true
  | .intro operand climb, scanned =>
    have parts := scanned_append.mp scanned
    climb.wellFormed (operand.wellFormed parts.1) parts.2

theorem Climb.wellFormed : Climb precedence left words next e → left.isWellFormed = true →
    Scanned words → e.isWellFormed = true
  | .done _, before, _ => before
  | .factorial climb, before, scanned => by
    refine climb.wellFormed ?_ (scanned_cons.mp scanned).2
    simp [isWellFormed, operandWellFormed, Operator.isWritten, Operator.precedence?,
      Fixity.operands, before]
  | .call _ arguments climb, before, scanned => by
    obtain ⟨inner, rest⟩ := scanned_append.mp (scanned_cons.mp scanned).2
    refine climb.wellFormed ?_ rest
    simp [isWellFormed, before, arguments.wellFormed inner]
  | .infixed _ other strength _ expression climb, before, scanned => by
    obtain ⟨inner, rest⟩ := scanned_append.mp (scanned_cons.mp scanned).2
    refine climb.wellFormed ?_ rest
    simp [isWellFormed, operandWellFormed, infix_isWritten strength other, Fixity.operands,
      before, expression.wellFormed inner]

theorem Arguments.wellFormed : Arguments words es → Scanned words → allWellFormed es = true
  | .done, _ => by simp [allWellFormed]
  | .last expression, scanned => by
    simp [allWellFormed, expression.wellFormed (scanned_append.mp scanned).1]
  | .more expression arguments, scanned => by
    obtain ⟨first, others⟩ := scanned_append.mp scanned
    simp [allWellFormed, expression.wellFormed first,
      arguments.wellFormed (scanned_cons.mp others).2]

theorem Members.wellFormed : Members words es → Scanned words → allWellFormed es = true
  | .done, _ | .trailing, _ => by simp [allWellFormed]
  | .more expression members, scanned => by
    obtain ⟨first, others⟩ := scanned_append.mp (scanned_cons.mp scanned).2
    simp [allWellFormed, expression.wellFormed first, members.wellFormed others]

theorem Guard.wellFormed : Guard seenElse words isElse g → Scanned words → g.isWellFormed = true
  | .condition expression, scanned => expression.wellFormed (scanned_cons.mp scanned).2
  | .otherwise, _ => by simp [isWellFormed]

theorem Arms.wellFormed : Arms seenElse value words pieces → value.isWellFormed = true →
    Scanned words → pieces.isEmpty = false ∧ armsWellFormed pieces = true
  | .last guard, before, scanned => by
    simp [armsWellFormed, before, guard.wellFormed (scanned_append.mp scanned).1]
  | .more guard expression arms, before, scanned => by
    obtain ⟨first, others⟩ := scanned_append.mp scanned
    obtain ⟨second, rest⟩ := scanned_append.mp (scanned_cons.mp others).2
    have after := arms.wellFormed (expression.wellFormed second) rest
    simp [armsWellFormed, before, guard.wellFormed first, after.2]

end

theorem nodup_concat {before : List String} (distinct : before.Nodup) (fresh : name ∉ before) :
    (before ++ [name]).Nodup := by
  refine List.nodup_append.mpr ⟨distinct, by simp, ?_⟩
  intro other member last same
  rintro rfl
  exact fresh (List.mem_singleton.mp same ▸ member)

theorem fresh {before : List String} (distinct : (before ++ name :: names).Nodup) :
    name ∉ before := fun member =>
  (List.nodup_append.mp distinct).2.2 name member name (List.mem_cons_self ..) rfl

theorem Parameters.wellFormed (read : Parameters before words names) (scanned : Scanned words)
    (distinct : before.Nodup) (named : before.all Lexeme.isName = true) :
    names.Nodup ∧ names.all Lexeme.isName = true := by
  induction read with
  | done => exact ⟨distinct, named⟩
  | last fresh =>
    have isName : Lexeme.isName _ = true := (scanned_cons.mp scanned).1
    exact ⟨nodup_concat distinct fresh, by rw [List.all_append, named]; simp [isName]⟩
  | more fresh _ ih =>
    have isName : Lexeme.isName _ = true := (scanned_cons.mp scanned).1
    have rest := (scanned_cons.mp (scanned_cons.mp scanned).2).2
    exact ih rest (nodup_concat distinct fresh) (by rw [List.all_append, named]; simp [isName])

theorem Statement.wellFormed (read : Reading.Statement words s) (scanned : Scanned words) :
    s.isWellFormed = true := by
  cases read with
  | assignment expression =>
    simp only [scanned_cons, scanned_append] at scanned
    obtain ⟨-, name, -, value, -⟩ := scanned
    have isName : Lexeme.isName _ = true := name
    simp [PiecewiseLang.Statement.isWellFormed, isName, expression.wellFormed value]
  | declaration parameters expression =>
    simp only [scanned_cons, scanned_append] at scanned
    obtain ⟨-, name, -, names, -, body, -⟩ := scanned
    have isName : Lexeme.isName _ = true := name
    obtain ⟨distinct, named⟩ := parameters.wellFormed names .nil rfl
    simp [PiecewiseLang.Statement.isWellFormed, isName, distinct, named, expression.wellFormed body]
  | expression expression => exact expression.wellFormed (scanned_append.mp scanned).1

theorem Program.wellFormed (read : Program words program) (scanned : Scanned words) :
    ∀ s ∈ program, s.isWellFormed = true := by
  induction read with
  | done => simp
  | more statement _ ih =>
    obtain ⟨first, rest⟩ := scanned_append.mp scanned
    intro s member
    rcases List.mem_cons.mp member with rfl | member
    · exact statement.wellFormed first
    · exact ih rest s member

end Reading

end PiecewiseLang
