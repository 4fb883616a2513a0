import PiecewiseLang.Expr.Render
import PiecewiseLang.Proofs.Parsing.WellFormed
import PiecewiseLang.Proofs.Token.Fragments

/-! The written form of a well-formed tree spells the words of the tree, whatever follows it
behind a boundary. -/
namespace PiecewiseLang

namespace Expr

/-- The word an operator is written as. -/
def sign (operator : Operator) : Word := ⟨operator.symbol.kind, operator.symbol.text⟩

mutual

/-- The words of the written form of a tree. -/
def words : Expr → List Word
  | .name n => [⟨.name, n⟩]
  | .integer value => [⟨.integer, toString value⟩]
  | .real value => [⟨.real, value.write⟩]
  | .boolean true => [⟨.trueWord, "true"⟩]
  | .boolean false => [⟨.falseWord, "false"⟩]
  | .undefined => [⟨.undefinedWord, "undefined"⟩]
  | .combination operator left right =>
    match operator.fixity with
    | .prefixed => mark '(' :: (sign operator :: wordsOfOperand right ++ [mark ')'])
    | .postfixed => mark '(' :: (wordsOfOperand left ++ [sign operator] ++ [mark ')'])
    | .infixed =>
      mark '(' :: (wordsOfOperand left ++ sign operator :: wordsOfOperand right ++ [mark ')'])
  | .call callee arguments => callee.words ++ mark '(' :: wordsOfList (mark ')') arguments
  | .piecewise arms => mark '{' :: wordsOfArms arms
  | .magnitude operand => mark '|' :: (operand.words ++ [mark '|'])
  | .set members => mark '{' :: wordsOfList (mark '}') members

def wordsOfOperand : Option Expr → List Word
  | none => []
  | some e => e.words

/-- The words of a list with what closes it. -/
def wordsOfList (closing : Word) : List Expr → List Word
  | [] => [closing]
  | e :: rest => e.words ++ wordsOfRest closing rest

/-- The words of the further items of a list with what closes it. -/
def wordsOfRest (closing : Word) : List Expr → List Word
  | [] => [closing]
  | e :: rest => mark ',' :: (e.words ++ wordsOfRest closing rest)

/-- The words of the arms of a block with its closing brace. -/
def wordsOfArms : List (Expr × Expr) → List Word
  | [] => [mark '}']
  | (value, guard) :: rest =>
    value.words ++ ⟨.ifWord, "if"⟩ :: (guard.words ++ mark ';' :: wordsOfArms rest)

end

theorem integer_cases (wellFormed : (Expr.integer value).isWellFormed = true) : ∃ n : Nat,
    value = n ∧ n ≤ Lexeme.integerMax ∧ toString value = String.ofList (Nat.toDigits 10 n) := by
  simp only [isWellFormed, Bool.and_eq_true, decide_eq_true_eq] at wellFormed
  obtain ⟨n, rfl⟩ := Int.eq_ofNat_of_zero_le wellFormed.1
  exact ⟨n, rfl, Int.ofNat_le.mp wellFormed.2, rfl⟩

theorem real_cases (wellFormed : (Expr.real value).isWellFormed = true) :
    ∃ x : Binary64, value = .finite x ∧ x.negative = false := by
  cases value with
  | finite x => exact ⟨x, rfl, by simpa [isWellFormed] using wellFormed⟩
  | infinite _ => simp [isWellFormed] at wellFormed
  | notANumber => simp [isWellFormed] at wellFormed

/-- No written form begins with a slash, which would make one mark with a minus before it. -/
theorem render_head : (e : Expr) → e.isWellFormed = true →
    ∃ c rest, e.render.toList = c :: rest ∧ c ≠ '/'
  | .name n, wellFormed => by
    rw [isWellFormed, Lexeme.isName, Bool.and_eq_true] at wellFormed
    rw [render]
    cases chars : n.toList with
    | nil => rw [chars] at wellFormed; simp [Lexeme.isWord] at wellFormed
    | cons c rest =>
      refine ⟨c, rest, rfl, ?_⟩
      rintro rfl
      rw [chars] at wellFormed
      simp [Lexeme.isWord] at wellFormed
  | .integer value, wellFormed => by
    obtain ⟨n, -, -, text⟩ := integer_cases wellFormed
    obtain ⟨c, rest, digits⟩ := List.exists_cons_of_ne_nil (Nat.toDigits_ne_nil (n := n) (b := 10))
    refine ⟨c, rest, by rw [render, text, String.toList_ofList, digits], ?_⟩
    rintro rfl
    exact absurd (Text.isDigit_toDigits n '/' (by simp [digits])) (by decide)
  | .real value, wellFormed => by
    obtain ⟨x, rfl, plain⟩ := real_cases wellFormed
    obtain ⟨whole, fraction, text, nonempty, -, digits, -⟩ := Binary64.write_spec plain
    obtain ⟨c, rest, rfl⟩ := List.exists_cons_of_ne_nil nonempty
    refine ⟨c, _, by rw [render, Double.write, text, String.toList_ofList]; rfl, ?_⟩
    rintro rfl
    exact absurd (digits '/' (List.mem_cons_self ..)) (by decide)
  | .boolean true, _ => ⟨'t', _, rfl, by decide⟩
  | .boolean false, _ => ⟨'f', _, rfl, by decide⟩
  | .undefined, _ => ⟨'u', _, rfl, by decide⟩
  | .combination ⟨_, .prefixed⟩ _ _, _ | .combination ⟨_, .postfixed⟩ _ _, _
  | .combination ⟨_, .infixed⟩ _ _, _ => by simp [render, Operator.renderPrefixed]
  | .call callee arguments, wellFormed => by
    rw [isWellFormed, Bool.and_eq_true] at wellFormed
    obtain ⟨c, rest, text, other⟩ := callee.render_head wellFormed.1
    exact ⟨c, _, by simp only [render, String.toList_append, text]; rfl, other⟩
  | .piecewise arms, _ => by simp [render]
  | .magnitude operand, _ => by simp [render]
  | .set members, _ => by simp [render]

theorem toList_intercalate_cons (separator s : String) (ss : List String) :
    (separator.intercalate (s :: ss)).toList =
      s.toList ++ ss.flatMap (separator.toList ++ ·.toList) := by
  induction ss generalizing s with
  | nil => simp
  | cons t ss ih =>
    rw [String.intercalate_cons_cons, String.toList_append, String.toList_append, ih]
    simp

theorem spells_numeral {n : Nat} (range : n ≤ Lexeme.integerMax) (boundary : isBoundary rest = true)
    (spelled : Spells rest after) :
    Spells (Nat.toDigits 10 n ++ rest) (⟨.integer, String.ofList (Nat.toDigits 10 n)⟩ :: after) :=
  Spells.numeral (fun c member => Text.isNumeralChar_of_isDigit (Text.isDigit_toDigits n c member))
    Nat.toDigits_ne_nil (numeral_toDigits range) boundary spelled

theorem spells_real {x : Binary64} (plain : x.negative = false) (boundary : isBoundary rest = true)
    (spelled : Spells rest after) : Spells (x.write.toList ++ rest) (⟨.real, x.write⟩ :: after) := by
  obtain ⟨c, chars, text, isNumeral, scanned⟩ := numeral_write plain
  rw [text, String.toList_ofList]
  exact Spells.numeral isNumeral (List.cons_ne_nil _ _) scanned boundary spelled

theorem combination_cases (wellFormed : (Expr.combination operator left right).isWellFormed = true) :
    operator.isWritten = true ∧
      (left.isSome = operator.fixity.operands.1 ∧ right.isSome = operator.fixity.operands.2) ∧
      operandWellFormed left = true ∧ operandWellFormed right = true := by
  simp only [isWellFormed, Bool.and_eq_true, decide_eq_true_eq] at wellFormed
  obtain ⟨⟨⟨written, operands⟩, first⟩, second⟩ := wellFormed
  exact ⟨written, Prod.mk.inj operands, first, second⟩

theorem prefix_cases (written : Operator.isWritten ⟨symbol, .prefixed⟩ = true) :
    symbol = .not ∨ symbol = .sub := by
  cases symbol <;> first | exact .inl rfl | exact .inr rfl | cases written

theorem postfix_eq (written : Operator.isWritten ⟨symbol, .postfixed⟩ = true) :
    symbol = .factorial := by
  cases symbol <;> first | rfl | cases written

theorem operand_head : (operand : Option Expr) → operand.isSome = true →
    operandWellFormed operand = true → (rest : List Char) →
    ((renderOperand operand).toList ++ rest).head? ≠ some '/'
  | some e, _, wellFormed, rest => by
    rw [operandWellFormed] at wellFormed
    obtain ⟨c, chars, text, other⟩ := e.render_head wellFormed
    simpa [renderOperand, text] using other

mutual

/-- The written form of a tree is scanned as the words of the tree. -/
theorem spells_render : (e : Expr) → e.isWellFormed = true → isBoundary rest = true →
    Spells rest after → Spells (e.render.toList ++ rest) (e.words ++ after)
  | .name n, wellFormed, boundary, spelled => by
    rw [isWellFormed, Lexeme.isName, Bool.and_eq_true, Option.isNone_iff_eq_none] at wellFormed
    simpa [render, words, wellFormed.2] using Spells.word n wellFormed.1 boundary spelled
  | .integer value, wellFormed, boundary, spelled => by
    obtain ⟨n, -, range, text⟩ := integer_cases wellFormed
    rw [render, words, text, String.toList_ofList]
    exact spells_numeral range boundary spelled
  | .real value, wellFormed, boundary, spelled => by
    obtain ⟨x, rfl, plain⟩ := real_cases wellFormed
    exact spells_real plain boundary spelled
  | .boolean true, _, boundary, spelled => Spells.word "true" rfl boundary spelled
  | .boolean false, _, boundary, spelled => Spells.word "false" rfl boundary spelled
  | .undefined, _, boundary, spelled => Spells.word "undefined" rfl boundary spelled
  | .combination ⟨symbol, .prefixed⟩ left right, wellFormed, _, spelled => by
    obtain ⟨written, ⟨-, some⟩, -, sound⟩ := combination_cases wellFormed
    have inner := spells_operand right some sound rfl (Spells.isolated ')' (by decide) spelled)
    rcases prefix_cases written with rfl | rfl
    · have word : Symbol.not.isWord = true := by decide
      have signed := Spells.isolated '(' (by decide) (Spells.symbol .not inner)
      simpa [render, Operator.renderPrefixed, words, sign, word] using signed
    · have word : Symbol.sub.isWord = false := by decide
      have same : sign ⟨.sub, .prefixed⟩ = mark '-' := rfl
      have apart := operand_head right some sound (')' :: rest)
      have signed := Spells.isolated '(' (by decide) (Spells.minus apart inner)
      simpa [render, Operator.renderPrefixed, words, same, word, Symbol.text] using signed
  | .combination ⟨symbol, .postfixed⟩ left right, wellFormed, _, spelled => by
    obtain ⟨written, ⟨some, -⟩, sound, -⟩ := combination_cases wellFormed
    obtain rfl := postfix_eq written
    have same : sign ⟨.factorial, .postfixed⟩ = mark '!' := rfl
    have inner := spells_operand left some sound rfl
      (Spells.isolated '!' (by decide) (Spells.isolated ')' (by decide) spelled))
    simpa [render, words, same, Symbol.text] using Spells.isolated '(' (by decide) inner
  | .combination ⟨symbol, .infixed⟩ left right, wellFormed, _, spelled => by
    obtain ⟨-, ⟨some, some'⟩, sound, sound'⟩ := combination_cases wellFormed
    have second := spells_operand right some' sound' rfl
      (Spells.isolated ')' (by decide) spelled)
    have first := spells_operand left some sound rfl
      (Spells.blank (c := ' ') rfl (Spells.symbol symbol second))
    simpa [render, words, sign] using Spells.isolated '(' (by decide) first
  | .call callee arguments, wellFormed, boundary, spelled => by
    rw [isWellFormed, Bool.and_eq_true] at wellFormed
    have inner := spells_list arguments ')' (by decide) wellFormed.2 spelled
    have whole := spells_render callee wellFormed.1 rfl (Spells.isolated '(' (by decide) inner)
    simpa [render, words] using whole
  | .piecewise arms, wellFormed, boundary, spelled => by
    rw [isWellFormed, Bool.and_eq_true] at wellFormed
    have inner := Spells.isolated '{' (by decide) (spells_arms arms wellFormed.2 spelled)
    cases arms with
    | nil => cases wellFormed.1
    | cons arm arms =>
      rw [render, words, String.toList_append, String.toList_append, renderArms,
        toList_intercalate_cons]
      simpa [renderArms] using inner
  | .magnitude operand, wellFormed, boundary, spelled => by
    rw [isWellFormed] at wellFormed
    have inner := spells_render operand wellFormed rfl (Spells.isolated '|' (by decide) spelled)
    simpa [render, words] using Spells.isolated '|' (by decide) inner
  | .set members, wellFormed, boundary, spelled => by
    rw [isWellFormed] at wellFormed
    have inner := spells_list members '}' (by decide) wellFormed spelled
    simpa [render, words] using Spells.isolated '{' (by decide) inner

theorem spells_operand : (operand : Option Expr) → operand.isSome = true →
    operandWellFormed operand = true → isBoundary rest = true → Spells rest after →
    Spells ((renderOperand operand).toList ++ rest) (wordsOfOperand operand ++ after)
  | some e, _, wellFormed, boundary, spelled => by
    rw [operandWellFormed] at wellFormed
    exact spells_render e wellFormed boundary spelled

theorem spells_list : (es : List Expr) → (c : Char) →
    (c ∈ ['(', ')', '{', '}', ',', ';', '|', '!']) → allWellFormed es = true → Spells rest after →
    Spells ((", ".intercalate (renderEach es)).toList ++ c :: rest)
      (wordsOfList (mark c) es ++ after)
  | [], c, closing, _, spelled => by
    simpa [renderEach, wordsOfList] using Spells.isolated c closing spelled
  | e :: es, c, closing, wellFormed, spelled => by
    rw [allWellFormed, Bool.and_eq_true] at wellFormed
    obtain ⟨boundary, others⟩ := spells_rest es c closing wellFormed.2 spelled
    rw [renderEach, wordsOfList, toList_intercalate_cons, List.append_assoc, List.append_assoc]
    exact spells_render e wellFormed.1 boundary others

theorem spells_rest : (es : List Expr) → (c : Char) →
    (c ∈ ['(', ')', '{', '}', ',', ';', '|', '!']) → allWellFormed es = true → Spells rest after →
    let following := (renderEach es).flatMap (", ".toList ++ ·.toList) ++ c :: rest
    isBoundary following = true ∧ Spells following (wordsOfRest (mark c) es ++ after)
  | [], c, closing, _, spelled =>
    ⟨boundary_of_isolated closing, Spells.isolated c closing spelled⟩
  | e :: es, c, closing, wellFormed, spelled => by
    rw [allWellFormed, Bool.and_eq_true] at wellFormed
    obtain ⟨boundary, others⟩ := spells_rest es c closing wellFormed.2 spelled
    have inner := spells_render e wellFormed.1 boundary others
    have whole := Spells.isolated ',' (by decide) (inner.blank (c := ' ') rfl)
    exact ⟨rfl, by simpa [renderEach, wordsOfRest] using whole⟩

theorem spells_arms : (arms : List (Expr × Expr)) → armsWellFormed arms = true →
    Spells rest after →
    Spells ((renderArms arms).flatMap (" ".toList ++ ·.toList) ++ ' ' :: '}' :: rest)
      (wordsOfArms arms ++ after)
  | [], _, spelled => (Spells.isolated '}' (by decide) spelled).blank rfl
  | (value, guard) :: arms, wellFormed, spelled => by
    simp only [armsWellFormed, Bool.and_eq_true] at wellFormed
    have others := Spells.isolated ';' (by decide) (spells_arms arms wellFormed.2 spelled)
    have condition := spells_render guard wellFormed.1.2 rfl others
    have word := Spells.word "if" rfl rfl (condition.blank (c := ' ') rfl)
    have whole := spells_render value wellFormed.1.1 rfl (word.blank (c := ' ') rfl)
    have kind : (Lexeme.keywords.lookup "if").getD .name = .ifWord := rfl
    simpa [renderArms, wordsOfArms, kind] using whole.blank (c := ' ') rfl

end

theorem name_word {name : String} (isName : Lexeme.isName name = true) (boundary : isBoundary rest = true)
    (spelled : Spells rest after) : Spells (name.toList ++ rest) (⟨.name, name⟩ :: after) :=
  spells_render (.name name) (by rwa [isWellFormed]) boundary spelled

theorem renderEach_names (parameters : List String) :
    renderEach (parameters.map .name) = parameters := by
  induction parameters with
  | nil => rfl
  | cons p parameters ih => rw [List.map_cons, renderEach, render, ih]

theorem allWellFormed_names {parameters : List String}
    (named : parameters.all Lexeme.isName = true) :
    allWellFormed (parameters.map .name) = true := by
  induction parameters with
  | nil => rfl
  | cons p parameters ih =>
    rw [List.all_cons, Bool.and_eq_true] at named
    rw [List.map_cons, allWellFormed, isWellFormed, named.1, ih named.2]
    rfl

end Expr

namespace Statement

/-- The words of the written form of a statement. -/
def words : Statement → List Word
  | .assignment name e =>
    ⟨.letWord, "let"⟩ :: ⟨.name, name⟩ :: mark '=' :: (e.words ++ [mark ';'])
  | .declaration name parameters body =>
    ⟨.fnWord, "fn"⟩ :: ⟨.name, name⟩ :: mark '(' ::
      (Expr.wordsOfList (mark ')') (parameters.map .name) ++ mark '=' :: (body.words ++ [mark ';']))
  | .expression e => e.words ++ [mark ';']

theorem spells_render (s : Statement) (wellFormed : s.isWellFormed = true)
    (spelled : Spells rest after) : Spells (s.render.toList ++ rest) (s.words ++ after) := by
  have closed := Spells.isolated ';' (by decide) spelled
  cases s with
  | assignment name e =>
    rw [isWellFormed, Bool.and_eq_true] at wellFormed
    have value := Expr.spells_render e wellFormed.2 rfl closed
    have named := Expr.name_word wellFormed.1 rfl (Spells.blank (c := ' ') rfl value.assign)
    have word := Spells.word "let" rfl rfl (named.blank (c := ' ') rfl)
    have kind : (Lexeme.keywords.lookup "let").getD .name = .letWord := rfl
    simpa [render, words, kind] using word
  | declaration name parameters body =>
    simp only [isWellFormed, Bool.and_eq_true, decide_eq_true_eq] at wellFormed
    obtain ⟨⟨⟨isName, named⟩, -⟩, sound⟩ := wellFormed
    have value := Spells.blank (c := ' ') rfl (Expr.spells_render body sound rfl closed).assign
    have inner := Expr.spells_list (parameters.map .name) ')' (by decide) (Expr.allWellFormed_names named) value
    rw [Expr.renderEach_names] at inner
    have opened := Expr.name_word isName rfl (Spells.isolated '(' (by decide) inner)
    have word := Spells.word "fn" rfl rfl (opened.blank (c := ' ') rfl)
    have kind : (Lexeme.keywords.lookup "fn").getD .name = .fnWord := rfl
    simpa [render, renderParameters, words, kind] using word
  | expression e =>
    simpa [render, words] using Expr.spells_render e wellFormed rfl closed

end Statement

end PiecewiseLang
