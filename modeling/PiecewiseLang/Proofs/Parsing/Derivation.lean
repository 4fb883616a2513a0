import PiecewiseLang.Proofs.Parsing.Chain
import PiecewiseLang.Proofs.Parsing.WellFormed

/-! The grammar of programs, with no binding strengths and no trees. It is ambiguous: it says
which words make up a program and leaves open how they group. What the parser reads derives
from the grammar, and what derives from it is a chain and so is read by the parser. -/
namespace PiecewiseLang

namespace Grammar

mutual

inductive Expression : List Word → Prop where
  | intro : Operand words → Suffix rest → Expression (words ++ rest)

/-- Infix operators with an expression each and factorial signs, in any number. -/
inductive Suffix : List Word → Prop where
  | done : Suffix []
  | infixed : kind.infixSymbol? = some symbol → Chain.joins symbol = true →
      Expression words → Suffix rest → Suffix (⟨kind, text⟩ :: (words ++ rest))
  | factorial : Suffix rest → Suffix (⟨.bang, text⟩ :: rest)

inductive Operand : List Word → Prop where
  | name : Operand [⟨.name, text⟩]
  | integer : Operand [⟨.integer, text⟩]
  | real : Operand [⟨.real, text⟩]
  | trueWord : Operand [⟨.trueWord, text⟩]
  | falseWord : Operand [⟨.falseWord, text⟩]
  | undefinedWord : Operand [⟨.undefinedWord, text⟩]
  | not : Expression words → Operand (⟨.notWord, text⟩ :: words)
  | minus : Expression words → Operand (⟨.minus, text⟩ :: words)
  | parens : Expression words →
      Operand (⟨.leftParen, text⟩ :: (words ++ [⟨.rightParen, text'⟩]))
  | bars : Expression words → Operand (⟨.bar, text⟩ :: (words ++ [⟨.bar, text'⟩]))
  | emptySet : Operand [⟨.leftBrace, text⟩, ⟨.rightBrace, text'⟩]
  | set : Items words → Operand (⟨.leftBrace, text⟩ :: (words ++ [⟨.rightBrace, text'⟩]))
  | piecewise : Arms elses words → elses ≤ 1 →
      Operand (⟨.leftBrace, text⟩ :: (words ++ [⟨.rightBrace, text'⟩]))
  | call : Call words → Operand words

inductive Call : List Word → Prop where
  | empty : Expression words → Call (words ++ [⟨.leftParen, text⟩, ⟨.rightParen, text'⟩])
  | items : Expression words → Items words' →
      Call (words ++ ⟨.leftParen, text⟩ :: (words' ++ [⟨.rightParen, text'⟩]))

/-- Expressions between commas, of which one may stand at the end. -/
inductive Items : List Word → Prop where
  | last : Expression words → Items words
  | trailing : Expression words → Items (words ++ [⟨.comma, text⟩])
  | more : Expression words → Items rest → Items (words ++ ⟨.comma, text⟩ :: rest)

/-- One or more arms and how many of them are an `else`. -/
inductive Arms : Nat → List Word → Prop where
  | last : Arm elses words → Arms elses words
  | more : Arm elses words → Arms elses' rest → Arms (elses + elses') (words ++ rest)

inductive Arm : Nat → List Word → Prop where
  | condition : Expression words → Expression words' →
      Arm 0 (words ++ ⟨.ifWord, text⟩ :: (words' ++ [⟨.semicolon, text'⟩]))
  | otherwise : Expression words →
      Arm 1 (words ++ [⟨.elseWord, text⟩, ⟨.semicolon, text'⟩])

end

/-- Names between commas, of which one may stand at the end. -/
inductive Parameters : List Word → List String → Prop where
  | last : Parameters [⟨.name, name⟩] [name]
  | trailing : Parameters [⟨.name, name⟩, ⟨.comma, text⟩] [name]
  | more : Parameters rest names →
      Parameters (⟨.name, name⟩ :: ⟨.comma, text⟩ :: rest) (name :: names)

inductive Statement : List Word → Prop where
  | assignment : Expression words →
      Statement (⟨.letWord, text₁⟩ :: ⟨.name, name⟩ :: ⟨.assign, text₂⟩ ::
        (words ++ [⟨.semicolon, text₃⟩]))
  | constant : Expression words →
      Statement (⟨.fnWord, text₁⟩ :: ⟨.name, name⟩ :: ⟨.leftParen, text₂⟩ ::
        ⟨.rightParen, text₃⟩ :: ⟨.assign, text₄⟩ :: (words ++ [⟨.semicolon, text₅⟩]))
  | function : Parameters words names → names.Nodup → Expression words' →
      Statement (⟨.fnWord, text₁⟩ :: ⟨.name, name⟩ :: ⟨.leftParen, text₂⟩ ::
        (words ++ ⟨.rightParen, text₃⟩ :: ⟨.assign, text₄⟩ :: (words' ++ [⟨.semicolon, text₅⟩])))
  | expression : Expression words → Statement (words ++ [⟨.semicolon, text⟩])

inductive Program : List Word → Prop where
  | done : Program []
  | more : Statement words → Program rest → Program (words ++ rest)

theorem Suffix.append : Suffix words → Suffix rest → Suffix (words ++ rest)
  | .done, rest => rest
  | .infixed found legal operand words, rest => by
    rw [List.cons_append, List.append_assoc]
    exact .infixed found legal operand (words.append rest)
  | .factorial words, rest => .factorial (words.append rest)

theorem Expression.append (expression : Expression words) (suffix : Suffix rest) :
    Expression (words ++ rest) := by
  obtain ⟨operand, before⟩ := expression
  rw [List.append_assoc]
  exact .intro operand (before.append suffix)

theorem Expression.join (left : Expression before) (found : kind.infixSymbol? = some symbol)
    (legal : Chain.joins symbol = true) (right : Expression words) (text : String) :
    Expression (before ++ ⟨kind, text⟩ :: words) := by
  simpa using left.append (.infixed found legal right .done)

theorem Operand.expression (operand : Operand words) : Expression words := by
  simpa using Expression.intro operand .done

end Grammar

namespace Reading

open Grammar

mutual

theorem Operand.derives : Operand words next e → Grammar.Operand words
  | .name => .name
  | .integer _ => .integer
  | .real _ => .real
  | .trueWord => .trueWord
  | .falseWord => .falseWord
  | .undefinedWord => .undefinedWord
  | .prefixed found expression => by
    rcases TokenKind.prefixSymbol_cases found with ⟨rfl, -⟩ | ⟨rfl, -⟩
    · exact .not expression.derives
    · exact .minus expression.derives
  | .parens expression => .parens expression.derives
  | .bars expression => .bars expression.derives
  | .emptySet => .emptySet
  | .set expression members => by
    obtain ⟨inner, text, same, items⟩ := members.derives expression.derives
    rw [same]
    exact .set items
  | .piecewise expression arms => by
    obtain ⟨elses, inner, text, same, arms, one⟩ := arms.derives expression.derives
    rw [same]
    exact .piecewise arms (by simpa using one)

theorem Expression.derives : Expression precedence words next e → Grammar.Expression words
  | .intro operand climb => climb.derives operand.derives.expression

theorem Climb.derives : Climb precedence left rest next e → Grammar.Expression before →
    Grammar.Expression (before ++ rest)
  | .done _, expression => by rwa [List.append_nil]
  | .factorial climb, expression => by
    rw [← List.singleton_append, ← List.append_assoc]
    exact climb.derives (expression.append (.factorial .done))
  | .call _ arguments climb, expression => by
    obtain ⟨inner, text, rfl, items⟩ := arguments.derives
    rw [← List.cons_append, ← List.append_assoc]
    refine climb.derives (Grammar.Operand.expression (.call ?_))
    rcases items with rfl | items
    · exact .empty expression
    · exact .items expression items
  | .infixed found other strength _ operand climb, expression => by
    have legal := Chain.joins_of strength other
    rw [← List.cons_append, ← List.append_assoc]
    exact climb.derives (expression.join found legal operand.derives _)

theorem Arguments.derives : Arguments words es →
    ∃ inner text, words = inner ++ [⟨.rightParen, text⟩] ∧ (inner = [] ∨ Items inner)
  | .done => ⟨[], _, rfl, .inl rfl⟩
  | .last argument => ⟨_, _, rfl, .inr (.last argument.derives)⟩
  | @Arguments.more words e rest es text argument arguments => by
    obtain ⟨inner, text', rfl, items⟩ := arguments.derives
    refine ⟨words ++ ⟨.comma, text⟩ :: inner, text', by simp, .inr ?_⟩
    rcases items with rfl | items
    · exact .trailing argument.derives
    · exact .more argument.derives items

theorem Members.derives : Members rest es → Grammar.Expression words →
    ∃ inner text, words ++ rest = inner ++ [⟨.rightBrace, text⟩] ∧ Items inner
  | .done, expression => ⟨_, _, rfl, .last expression⟩
  | .trailing, expression => ⟨_, _, List.append_cons .., .trailing expression⟩
  | @Members.more words' rest next e es text member members, expression => by
    obtain ⟨inner, text', same, items⟩ := members.derives member.derives
    exact ⟨words ++ ⟨.comma, text⟩ :: inner, text', by simp [same], .more expression items⟩

theorem Guard.derives : Guard seenElse words isElse g → Grammar.Expression before →
    ∀ text, Arm isElse.toNat (before ++ (words ++ [⟨.semicolon, text⟩])) ∧
      (seenElse || isElse).toNat = seenElse.toNat + isElse.toNat
  | .condition expression, value => fun _ => ⟨.condition value expression.derives, by simp⟩
  | .otherwise, value => fun _ => ⟨.otherwise value, rfl⟩

theorem Arms.derives : Arms seenElse value rest pieces → Grammar.Expression words →
    ∃ elses inner text, words ++ rest = inner ++ [⟨.rightBrace, text⟩] ∧
      Grammar.Arms elses inner ∧ seenElse.toNat + elses ≤ 1
  | @Arms.last _ _ _ _ _ text text' guarded, expression => by
    obtain ⟨arm, counted⟩ := guarded.derives expression text
    exact ⟨_, _, text', by simp, .last arm, counted ▸ Bool.toNat_le _⟩
  | @Arms.more _ _ _ _ _ _ _ _ _ _ text guarded expression' arms, expression => by
    obtain ⟨arm, counted⟩ := guarded.derives expression text
    obtain ⟨elses, inner, text', same, arms, one⟩ := arms.derives expression'.derives
    exact ⟨_, _, text', by simp [same], .more arm arms, by omega⟩

end

theorem Parameters.derives (parameters : Parameters before words names)
    (distinct : before.Nodup) : ∃ inner text added, words = inner ++ [⟨.rightParen, text⟩] ∧
      names = before ++ added ∧ names.Nodup ∧
      (inner = [] ∧ added = [] ∨ Grammar.Parameters inner added) := by
  induction parameters with
  | done => exact ⟨[], _, [], rfl, by simp, distinct, .inl ⟨rfl, rfl⟩⟩
  | last new =>
    exact ⟨[_], _, [_], rfl, rfl, nodup_concat distinct new, .inr .last⟩
  | @more before name words names text new _ ih =>
    obtain ⟨inner, text', added, rfl, rfl, distinct, others⟩ := ih (nodup_concat distinct new)
    refine ⟨⟨.name, name⟩ :: ⟨.comma, text⟩ :: inner, text', name :: added, rfl,
      List.append_assoc .., distinct, .inr ?_⟩
    rcases others with ⟨rfl, rfl⟩ | others
    · exact .trailing
    · exact .more others

theorem Statement.derives (statement : Statement words s) : Grammar.Statement words := by
  cases statement with
  | assignment expression => exact .assignment expression.derives
  | declaration parameters expression =>
    obtain ⟨inner, text, added, rfl, rfl, distinct, given⟩ := parameters.derives .nil
    rw [List.append_assoc]
    rcases given with ⟨rfl, -⟩ | given
    · exact .constant expression.derives
    · exact .function given distinct expression.derives
  | expression expression => exact .expression expression.derives

theorem Program.derives (program : Program words p) : Grammar.Program words := by
  induction program with
  | done => exact .done
  | more statement _ ih => exact .more statement.derives ih

end Reading

namespace Chain

section
variable {Operand : List Word → Expr → Prop}

theorem Links.append (links : Links Operand words chain) (links' : Links Operand rest chain') :
    Links Operand (words ++ rest) (chain ++ chain') := by
  induction links with
  | done => exact links'
  | more found other strength item _ ih =>
    rw [List.cons_append, List.append_assoc]
    exact .more found other strength item ih

theorem Item.extend (suffix : ∀ {words e}, Operand words e → ∃ e', Operand (words ++ tail) e')
    (item : Item Operand words first) : ∃ first', Item Operand (words ++ tail) first' := by
  induction item with
  | plain operand =>
    obtain ⟨_, operand⟩ := suffix operand
    exact ⟨_, .plain operand⟩
  | signed found _ ih =>
    obtain ⟨_, item⟩ := ih
    exact ⟨_, .signed found item⟩

/-- What can stand behind an operand can stand behind a chain, namely behind its last
operand. -/
theorem Links.extend (suffix : ∀ {words e}, Operand words e → ∃ e', Operand (words ++ tail) e')
    (item : Item Operand words first) (links : Links Operand rest chain) :
    ∃ words' rest' first' chain', words ++ rest ++ tail = words' ++ rest' ∧
      Item Operand words' first' ∧ Links Operand rest' chain' := by
  induction links generalizing words first with
  | done =>
    obtain ⟨_, item⟩ := item.extend suffix
    exact ⟨_, [], _, [], by simp, item, .done⟩
  | @more symbol binding words' item' rest chain kind text found other strength last _ ih =>
    obtain ⟨words'', rest', _, _, same, last, links⟩ := ih last
    refine ⟨words, ⟨kind, text⟩ :: (words'' ++ rest'), first, _, ?_, item,
      .more found other strength last links⟩
    simp [← same]

end

/-- The words make up a chain, whatever its tree. -/
def Formed (words : List Word) : Prop := ∃ e, Expression words e

namespace Formed

theorem ofPrimary (primary : Primary words e) : Formed words := by
  rw [← List.append_nil words]
  exact ⟨_, .intro (.plain (.plain primary)) .done⟩

theorem sign (found : kind.prefixSymbol? = some symbol) (formed : Formed words)
    (text : String) : Formed (⟨kind, text⟩ :: words) := by
  obtain ⟨_, item, links⟩ := formed
  exact ⟨_, .intro (.signed found item) links⟩

theorem join (left : Formed before) (found : kind.infixSymbol? = some symbol)
    (legal : joins symbol = true) (right : Formed words) (text : String) :
    Formed (before ++ ⟨kind, text⟩ :: words) := by
  simp only [joins, Bool.and_eq_true, decide_eq_true_eq] at legal
  obtain ⟨strength, other⟩ := legal
  obtain ⟨binding, strength⟩ := Option.isSome_iff_exists.mp strength
  obtain ⟨_, item, links⟩ := left
  obtain ⟨_, item', links'⟩ := right
  rw [List.append_assoc]
  exact ⟨_, .intro item (links.append (.more found other strength item' links'))⟩

theorem extend (suffix : ∀ {words e}, Suffixed words e → ∃ e', Suffixed (words ++ tail) e')
    (formed : Formed words) : Formed (words ++ tail) := by
  obtain ⟨_, item, links⟩ := formed
  obtain ⟨_, _, _, _, same, item, links⟩ := links.extend suffix item
  rw [same]
  exact ⟨_, .intro item links⟩

end Formed

end Chain

namespace Grammar

open Chain (Formed)
open Reading (Scanned scanned_cons scanned_append)

mutual

theorem Expression.formed : Expression words → Scanned words → Formed words
  | .intro operand suffix, scanned => by
    obtain ⟨first, rest⟩ := scanned_append.mp scanned
    exact suffix.formed rest (operand.formed first)

theorem Suffix.formed : Suffix rest → Scanned rest → Formed words → Formed (words ++ rest)
  | .done, _, formed => by rwa [List.append_nil]
  | .infixed found legal operand suffix, scanned, formed => by
    obtain ⟨first, rest⟩ := scanned_append.mp (scanned_cons.mp scanned).2
    rw [← List.cons_append, ← List.append_assoc]
    exact suffix.formed rest (formed.join found legal (operand.formed first) _)
  | .factorial suffix, scanned, formed => by
    rw [List.append_cons]
    exact suffix.formed (scanned_cons.mp scanned).2
      (formed.extend fun operand => ⟨_, .factorial operand⟩)

theorem Operand.formed : Operand words → Scanned words → Formed words
  | .name, _ => .ofPrimary .name
  | .integer, scanned => by
    obtain ⟨n, -, read⟩ := (scanned_cons.mp scanned).1
    exact .ofPrimary (.integer read)
  | .real, scanned => by
    obtain ⟨x, -, read⟩ := (scanned_cons.mp scanned).1
    exact .ofPrimary (.real read)
  | .trueWord, _ => .ofPrimary .trueWord
  | .falseWord, _ => .ofPrimary .falseWord
  | .undefinedWord, _ => .ofPrimary .undefinedWord
  | .not expression, scanned => .sign rfl (expression.formed (scanned_cons.mp scanned).2) _
  | .minus expression, scanned => .sign rfl (expression.formed (scanned_cons.mp scanned).2) _
  | .parens expression, scanned => by
    obtain ⟨_, chain⟩ := expression.formed (scanned_append.mp (scanned_cons.mp scanned).2).1
    exact .ofPrimary (.parens chain)
  | .bars expression, scanned => by
    obtain ⟨_, chain⟩ := expression.formed (scanned_append.mp (scanned_cons.mp scanned).2).1
    exact .ofPrimary (.bars chain)
  | .emptySet, _ => .ofPrimary .emptySet
  | .set items, scanned => by
    obtain ⟨_, members⟩ := items.formed (scanned_append.mp (scanned_cons.mp scanned).2).1
    exact .ofPrimary (.set members)
  | .piecewise arms one, scanned => by
    obtain ⟨_, _, arms⟩ := arms.formed (scanned_append.mp (scanned_cons.mp scanned).2).1
    exact .ofPrimary (.piecewise arms (List.cons_ne_nil _ _) one)
  | .call call, scanned => call.formed scanned

theorem Call.formed : Call words → Scanned words → Formed words
  | .empty expression, scanned => by
    have formed := expression.formed (scanned_append.mp scanned).1
    exact formed.extend fun operand => ⟨_, .emptyCall operand⟩
  | .items expression items, scanned => by
    obtain ⟨first, rest⟩ := scanned_append.mp scanned
    obtain ⟨_, arguments⟩ := items.formed (scanned_append.mp (scanned_cons.mp rest).2).1
    exact (expression.formed first).extend fun operand => ⟨_, .call operand arguments⟩

theorem Items.formed : Items words → Scanned words →
    ∃ es, Chain.Items Chain.Expression words es
  | .last expression, scanned => by
    obtain ⟨_, chain⟩ := expression.formed scanned
    exact ⟨_, .last chain⟩
  | .trailing expression, scanned => by
    obtain ⟨_, chain⟩ := expression.formed (scanned_append.mp scanned).1
    exact ⟨_, .trailing chain⟩
  | .more expression items, scanned => by
    obtain ⟨first, rest⟩ := scanned_append.mp scanned
    obtain ⟨_, chain⟩ := expression.formed first
    obtain ⟨_, others⟩ := items.formed (scanned_cons.mp rest).2
    exact ⟨_, .more chain others⟩

theorem Arms.formed : Arms elses words → Scanned words →
    ∃ arm arms, Chain.Arms Chain.Expression elses words (arm :: arms)
  | .last arm, scanned => by
    obtain ⟨_, chained⟩ := arm.formed scanned .done
    exact ⟨_, _, by simpa using chained⟩
  | .more arm arms, scanned => by
    obtain ⟨first, rest⟩ := scanned_append.mp scanned
    obtain ⟨_, _, others⟩ := arms.formed rest
    obtain ⟨_, chained⟩ := arm.formed first others
    exact ⟨_, _, chained⟩

theorem Arm.formed : Arm elses words → Scanned words →
    Chain.Arms Chain.Expression elses' rest arms →
    ∃ arm, Chain.Arms Chain.Expression (elses + elses') (words ++ rest) (arm :: arms)
  | .condition value condition, scanned, arms => by
    obtain ⟨first, rest⟩ := scanned_append.mp scanned
    obtain ⟨_, chain⟩ := value.formed first
    obtain ⟨_, guard⟩ := condition.formed (scanned_append.mp (scanned_cons.mp rest).2).1
    simp only [List.append_assoc, List.cons_append, List.nil_append, Nat.zero_add]
    exact ⟨_, .condition chain guard arms⟩
  | .otherwise value, scanned, arms => by
    obtain ⟨_, chain⟩ := value.formed (scanned_append.mp scanned).1
    rw [List.append_assoc, Nat.add_comm]
    exact ⟨_, .otherwise chain arms⟩

end

theorem Expression.reads (expression : Expression words) (scanned : Scanned words) :
    ∃ e, Reading.Expression .lowest words .semicolon e := by
  obtain ⟨e, chain⟩ := expression.formed scanned
  exact ⟨e, chain.reads rfl⟩

theorem Parameters.reads (parameters : Parameters words names) {before : List String}
    (distinct : (before ++ names).Nodup) (text : String) :
    Reading.Parameters before (words ++ [⟨.rightParen, text⟩]) (before ++ names) := by
  induction parameters generalizing before with
  | last => exact .last (Reading.fresh distinct)
  | trailing => exact .more (Reading.fresh distinct) .done
  | @more rest names name text' _ ih =>
    have new := Reading.fresh distinct
    have same : before ++ name :: names = (before ++ [name]) ++ names := List.append_cons ..
    rw [same] at distinct ⊢
    exact .more new (ih distinct)

theorem Statement.reads (statement : Statement words) (scanned : Scanned words) :
    ∃ s, Reading.Statement words s := by
  cases statement with
  | assignment expression =>
    simp only [scanned_cons, scanned_append] at scanned
    obtain ⟨_, read⟩ := expression.reads scanned.2.2.2.1
    exact ⟨_, .assignment read⟩
  | constant expression =>
    simp only [scanned_cons, scanned_append] at scanned
    obtain ⟨_, read⟩ := expression.reads scanned.2.2.2.2.2.1
    exact ⟨_, .declaration .done read⟩
  | @function _ _ _ _ _ _ text _ _ parameters distinct expression =>
    simp only [scanned_cons, scanned_append] at scanned
    obtain ⟨-, -, -, -, -, -, body, -⟩ := scanned
    obtain ⟨_, read⟩ := expression.reads body
    have given := @Parameters.reads _ _ parameters [] distinct text
    rw [List.append_cons]
    exact ⟨_, .declaration given read⟩
  | expression expression =>
    obtain ⟨_, read⟩ := expression.reads (scanned_append.mp scanned).1
    exact ⟨_, .expression read⟩

theorem Program.reads (program : Program words) (scanned : Scanned words) :
    ∃ p, Reading.Program words p := by
  induction program with
  | done => exact ⟨_, .done⟩
  | more statement _ ih =>
    obtain ⟨first, rest⟩ := scanned_append.mp scanned
    obtain ⟨_, read⟩ := statement.reads first
    obtain ⟨_, others⟩ := ih rest
    exact ⟨_, .more read others⟩

end Grammar

end PiecewiseLang
