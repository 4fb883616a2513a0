import PiecewiseLang.Proofs.Repl.Balance

/-! Expressions by themselves and as statements. A parser of expressions ends before every token
that ends expressions, whichever it is; so the words of an expression are read as the same tree
at the end of a text and before the semicolon of a statement. -/
namespace PiecewiseLang

open Cursor

namespace Parser

variable {nesting : Nat} {words : List Word} {c d : Cursor}

/-- The words are read as the expression, with the given nesting and wherever they stand before
a token that ends expressions. -/
def Phrase (nesting : Nat) (words : List Word) (e : Expr) : Prop :=
  ∀ limit c d, words.length < limit → c.Passes words d →
    d.current.kind.endsExpression = true → (expression limit nesting .lowest).Yields c e d

theorem phrase_of_yields (run : (expression bound nesting .lowest).Yields c e d) :
    ∃ words, c.Passes words d ∧ Phrase nesting words e := by
  have inner : Inner id (expression bound nesting) (fun limit => expression limit nesting) :=
    expression_inner fun _ => Nat.le_refl _
  obtain ⟨words, -, passed, takes⟩ := (inner.follows .lowest c).ok run
  exact ⟨words, passed, fun limit c' d' fits passed' ends =>
    takes d'.current.kind (.inr ends) limit c' d' fits passed' rfl⟩

/-- Where an expression is read, neither word that opens a binding is in view. -/
theorem statement_expression_iff : (statement bound nesting).Yields c (.expression e) d ↔
    ∃ m, (expression bound nesting .lowest).Yields c e m ∧ m.current.kind = .semicolon ∧
      m.advance = .ok d := by
  rw [Yields, run_statement]
  constructor
  · intro run
    split at run
    · rw [← Yields] at run
      simp [assignment] at run
    split at run
    · rw [← Yields] at run
      simp [declaration] at run
    · rw [← Yields] at run
      simp only [yields_bind, yields_expect, yields_pure] at run
      obtain ⟨_, m, read, _, _, ⟨semicolon, -, advanced⟩, same, rfl⟩ := run
      cases same
      exact ⟨m, read, semicolon, advanced⟩
  · rintro ⟨m, read, semicolon, advanced⟩
    obtain ⟨words, passed, expression⟩ := expression_sound read
    have notLet : c.current.kind ≠ .letWord := current_ne passed expression rfl
    have notFn : c.current.kind ≠ .fnWord := current_ne passed expression rfl
    rw [if_neg notLet, if_neg notFn, ← Yields]
    simp only [yields_bind, yields_expect, yields_pure]
    exact ⟨_, m, read, _, _, ⟨semicolon, rfl, advanced⟩, rfl, rfl⟩

/-- An expression and a semicolon are an expression statement. -/
theorem segment_iff_phrase (inside : ∀ w ∈ words, w.kind ≠ .endOfInput) (text : String) :
    Segment nesting (words ++ [⟨.semicolon, text⟩]) (.expression e) ↔ Phrase nesting words e := by
  have inside' : ∀ w ∈ words ++ [⟨.semicolon, text⟩], w.kind ≠ .endOfInput := by
    simpa [or_imp, forall_and] using inside
  obtain ⟨c, d, passed, ended⟩ := exists_passes inside'
  constructor
  · intro segment
    obtain ⟨m, read, semicolon, advanced⟩ :=
      statement_expression_iff.mp (segment.takes (Nat.lt_succ_self _) passed)
    obtain ⟨words', passed', phrase⟩ := phrase_of_yields read
    have passed'' := passed'.append (passes_kind semicolon (by decide) advanced .done)
    obtain ⟨rfl, -⟩ := List.append_inj' (passed.unique passed'' ended ended) rfl
    exact phrase
  · intro phrase
    obtain ⟨m, before, after⟩ := Passes.append_iff.mp passed
    obtain ⟨semicolon, -, d', advanced, rest⟩ := passes_word after
    obtain rfl := Passes.nil_iff.mp rest
    have read := phrase _ c m (Nat.lt_succ_self _) before (by rw [semicolon]; rfl)
    obtain ⟨words', passed', segment⟩ :=
      segment_of_yields (statement_expression_iff.mpr ⟨m, read, semicolon, advanced⟩)
    rwa [passed.unique passed' ended ended]

/-- Nothing illegal is part of an expression. -/
theorem Phrase.legal (phrase : Phrase nesting words e) (inside : ∀ w ∈ words, w.kind ≠ .endOfInput) :
    ∀ w ∈ words, w.kind ≠ .illegal := by
  have segment := (segment_iff_phrase inside ";").mpr phrase
  have legal := TokenKind.legal_of_used (Segments.more segment .done).used
  exact fun w member => legal w (by simp [member])

end Parser

open PiecewiseLang.Parser

variable {source : String} {nesting : Nat}

theorem parseExpr_iff_phrase : parseExpr nesting source = .ok e ↔
    ∃ words, Spells source.toList words ∧ Phrase nesting words e := by
  rw [parseExpr_eq_ok]
  constructor
  · rintro ⟨c, d, started, read, ended⟩
    obtain ⟨words, passed, phrase⟩ := phrase_of_yields read
    exact ⟨words, spells_of_passes passed ended started, phrase⟩
  · rintro ⟨words, spelled, phrase⟩
    obtain ⟨c, d, started, passed, ended⟩ := Supply.offers_source spelled
    have short := spelled.length_le
    have room : words.length < loopBound (.ofSource source) := by
      simp only [loopBound, Supply.ofSource, Supply.size]
      omega
    exact ⟨c, d, started, phrase _ c d room passed (by rw [ended]; rfl), ended⟩

/-- A program of one expression statement is an expression and a semicolon. -/
theorem parseProgram_iff_phrase : parseProgram nesting source = .ok [.expression e] ↔
    ∃ words text, Spells source.toList (words ++ [⟨.semicolon, text⟩]) ∧
      Phrase nesting words e := by
  constructor
  · intro parsed
    obtain ⟨all, spelled, segments⟩ := parseProgram_segments parsed
    cases segments with
    | more segment rest =>
      cases rest
      rw [List.append_nil] at spelled
      obtain ⟨words, text, rfl, -⟩ := segment.level
      have inside : ∀ w ∈ words, w.kind ≠ .endOfInput := fun w member =>
        (spelled.lexical w (List.mem_append_left _ member)).inside
      exact ⟨words, text, spelled, (segment_iff_phrase inside text).mp segment⟩
  · rintro ⟨words, text, spelled, phrase⟩
    have inside : ∀ w ∈ words, w.kind ≠ .endOfInput := fun w member =>
      (spelled.lexical w (List.mem_append_left _ member)).inside
    have segment := (segment_iff_phrase inside text).mpr phrase
    refine Segments.parse ?_ spelled
    simpa using Segments.more segment .done

theorem spells_semicolon : Spells [';'] [⟨.semicolon, ";"⟩] := by
  have scanned : Lexeme.scan ';' [] = .ok ⟨.semicolon, ";", 1⟩ := rfl
  exact .more rfl scanned (.done rfl)

/-- A text is parsed as an expression exactly when the text with a line feed and a semicolon
behind it is parsed as the program of that one statement, with the same nesting. The line feed
ends a comment that the text ends with, and it keeps the semicolon out of a mark that the text
breaks off in. -/
theorem expressions_parse_as_statements (nesting : Nat) (source : String) (e : Expr) :
    parseExpr nesting source = .ok e ↔
      parseProgram nesting (source ++ "\n;") = .ok [.expression e] := by
  have text : (source ++ "\n;").toList = source.toList ++ '\n' :: [';'] := by
    rw [String.toList_append]
    rfl
  rw [parseExpr_iff_phrase, parseProgram_iff_phrase, text]
  constructor
  · rintro ⟨words, spelled, phrase⟩
    exact ⟨words, ";", spelled.append_lineFeed spells_semicolon
      (phrase.legal fun w member => (spelled.lexical w member).inside), phrase⟩
  · rintro ⟨words, text, spelled, phrase⟩
    have legal := phrase.legal fun w member =>
      (spelled.lexical w (List.mem_append_left _ member)).inside
    obtain ⟨before, after, whole, spelled, spelled'⟩ := spelled.split_lineFeed fun w member =>
      (List.mem_append.mp member).elim (legal w) (by simp +contextual)
    obtain rfl := spelled'.unique spells_semicolon
    obtain ⟨rfl, -⟩ := List.append_inj' whole rfl
    exact ⟨words, spelled, phrase⟩

end PiecewiseLang
