import PiecewiseLang.Proofs.Parsing.Completeness
import PiecewiseLang.Proofs.Parsing.Soundness
import PiecewiseLang.Proofs.Token.Spelling

/-! What is read from a whole supply of tokens. Given enough nesting, a program or an
expression is parsed exactly when its words can be read as one by the rules, whether they
come from a text or from a list of tokens. -/
namespace PiecewiseLang

/-- The supply hands out tokens of the given words and then the end of input. -/
def Supply.Offers (supply : Supply) (words : List Word) : Prop :=
  ∃ c d, Cursor.start supply = .ok c ∧ c.Passes words d ∧ d.current.kind = .endOfInput

theorem Supply.offers_source {source : String} (spelled : Spells source.toList words) :
    (Supply.ofSource source).Offers words := Cursor.passes_of_spells spelled 0 0

/-- A cursor on listed tokens passes those in front and then shows the next one. -/
theorem Cursor.draw_listed {before : List Token} (inside : ∀ t ∈ before, t.kind ≠ .endOfInput)
    (after : List Token) (position : Int) : ∃ c d position',
      Cursor.draw position (.listed (before ++ after)) = .ok c ∧
        c.Passes (before.map Token.word) d ∧ Cursor.draw position' (.listed after) = .ok d := by
  induction before generalizing position with
  | nil =>
    cases after with
    | nil => exact ⟨_, _, position, rfl, .done, rfl⟩
    | cons t after => exact ⟨_, _, position, rfl, .done, rfl⟩
  | cons t before ih =>
    have more : ∀ t ∈ before, t.kind ≠ .endOfInput := fun t member =>
      inside t (List.mem_cons_of_mem _ member)
    have here : t.kind ≠ .endOfInput := inside t (List.mem_cons_self ..)
    obtain ⟨m, d, position', drawn, passed, next⟩ := ih more t.position
    let c : Cursor := ⟨t, .listed (before ++ after)⟩
    have advanced : c.advance = .ok m := by rw [Cursor.advance, if_neg here]; exact drawn
    exact ⟨c, d, position', rfl, .step here advanced passed, next⟩

theorem Supply.offers_listed {inner : List Token}
    (inside : ∀ t ∈ inner, t.kind ≠ .endOfInput) (ended : last.kind = .endOfInput) :
    (Supply.listed (inner ++ [last])).Offers (inner.map Token.word) := by
  obtain ⟨c, d, position, drawn, passed, next⟩ := Cursor.draw_listed inside [last] 0
  cases next
  exact ⟨c, _, drawn, passed, ended⟩

/-- Some cursor shows the given words, and the end of input behind them. -/
theorem Cursor.exists_passes {words : List Word} (inside : ∀ w ∈ words, w.kind ≠ .endOfInput) :
    ∃ c d : Cursor, c.Passes words d ∧ d.current.kind = .endOfInput := by
  let last : Token := ⟨.endOfInput, "", 0⟩
  have listed : ∀ t ∈ words.map Word.token, t.kind ≠ .endOfInput := by
    intro t member
    obtain ⟨w, among, rfl⟩ := List.mem_map.mp member
    exact inside w among
  obtain ⟨c, d, -, passed, ended⟩ := Supply.offers_listed listed (rfl : last.kind = .endOfInput)
  rw [Word.map_word_token] at passed
  exact ⟨c, d, passed, ended⟩

section
variable {supply : Supply} {source : String} {nesting : Nat}

theorem parseTokens_eq_ok : parseTokens nesting supply = .ok program ↔
    ∃ c d, Cursor.start supply = .ok c ∧ (Parser.statements (Parser.loopBound supply) nesting
      (Parser.loopBound supply)).Yields c program d := by
  simp only [parseTokens, bind_eq_ok, Parser.Yields]
  constructor
  · rintro ⟨c, started, ⟨_, d⟩, run, same⟩
    cases same
    exact ⟨c, d, started, run⟩
  · rintro ⟨c, d, started, run⟩
    exact ⟨c, started, (program, d), run, rfl⟩

theorem parseExpr_eq_ok : parseExpr nesting source = .ok e ↔
    ∃ c d, Cursor.start (.ofSource source) = .ok c ∧ (Parser.expression
      (Parser.loopBound (.ofSource source)) nesting .lowest).Yields c e d ∧
        d.current.kind = .endOfInput := by
  simp only [parseExpr, bind_eq_ok, Parser.Yields]
  constructor
  · rintro ⟨c, started, ⟨e', d⟩, run, checked⟩
    by_cases ended : d.current.kind = .endOfInput
    · rw [if_pos ended] at checked
      cases checked
      exact ⟨c, d, started, run, ended⟩
    · rw [if_neg ended] at checked
      cases checked
  · rintro ⟨c, d, started, run, ended⟩
    exact ⟨c, started, (e, d), run, if_pos ended⟩

/-- A supply is parsed as a program exactly when its words are read as one. -/
theorem parseTokens_iff (offers : supply.Offers words) (fits : words.length ≤ nesting)
    (bounded : words.length ≤ supply.size) :
    parseTokens nesting supply = .ok program ↔ Reading.Program words program := by
  obtain ⟨c, d, started, passed, ended⟩ := offers
  rw [parseTokens_eq_ok]
  constructor
  · rintro ⟨c', d', started', run⟩
    cases Except.ok.inj (started'.symm.trans started)
    obtain ⟨words', passed', ended', read⟩ := Parser.statements_sound run
    rwa [passed.unique passed' ended ended']
  · intro read
    refine ⟨c, d, started, Parser.statements_complete passed ended read fits ?_ ?_⟩ <;>
      simp only [Parser.loopBound] <;> omega

theorem parseProgram_sound (parsed : parseProgram nesting source = .ok program) :
    ∃ words, Spells source.toList words ∧ Reading.Program words program := by
  obtain ⟨c, d, started, run⟩ := parseTokens_eq_ok.mp parsed
  obtain ⟨words, passed, ended, read⟩ := Parser.statements_sound run
  exact ⟨words, Cursor.spells_of_passes passed ended started, read⟩

theorem parseProgram_complete (spelled : Spells source.toList words)
    (read : Reading.Program words program) (fits : words.length ≤ nesting) :
    parseProgram nesting source = .ok program := by
  refine (parseTokens_iff (Supply.offers_source spelled) fits ?_).mpr read
  exact Nat.le_succ_of_le spelled.length_le

theorem parseExpr_sound (parsed : parseExpr nesting source = .ok e) :
    ∃ words, Spells source.toList words ∧
      Reading.Expression .lowest words .endOfInput e := by
  obtain ⟨c, d, started, run, ended⟩ := parseExpr_eq_ok.mp parsed
  obtain ⟨words, passed, read⟩ := Parser.expression_sound run
  exact ⟨words, Cursor.spells_of_passes passed ended started, ended ▸ read⟩

theorem parseExpr_complete (spelled : Spells source.toList words)
    (read : Reading.Expression .lowest words .endOfInput e) (fits : words.length ≤ nesting) :
    parseExpr nesting source = .ok e := by
  obtain ⟨c, d, started, passed, ended⟩ := Supply.offers_source spelled
  have shorter := spelled.length_le
  have run : (Parser.expression (Parser.loopBound (.ofSource source)) nesting .lowest).Yields c e d :=
    Parser.expression_complete passed (ended ▸ read) (by
      simp only [Parser.loopBound, Supply.ofSource, Supply.size]
      omega)
  exact parseExpr_eq_ok.mpr ⟨c, d, started, run, ended⟩

end

end PiecewiseLang
