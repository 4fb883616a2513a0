import PiecewiseLang.Proofs.Parsing.Derivation

/-! What is parsed and as what, for every text that is made of tokens. A program is accepted
exactly when its words derive from the grammar, and an expression is parsed exactly as the
tree of the chain it is. In both, the parser is given nesting for as many expressions as
there are tokens. -/
namespace PiecewiseLang

section
variable {source : String} {tokens : List Token} {nesting : Nat}

/-- The words of tokens that end with the end of input. -/
def wordsBeforeEnd (tokens : List Token) : List Word := tokens.dropLast.map Token.word

theorem words_scanned (scanned : tokenize source = .ok tokens) : ∃ inner last,
    tokens = inner ++ [last] ∧ last.kind = .endOfInput ∧ wordsBeforeEnd tokens = inner.map Token.word ∧
      Spells source.toList (wordsBeforeEnd tokens) := by
  obtain ⟨inner, last, rfl, ended, spelled⟩ := tokenize_spells scanned
  have words : wordsBeforeEnd (inner ++ [last]) = inner.map Token.word := by
    rw [wordsBeforeEnd, List.dropLast_concat]
  exact ⟨inner, last, rfl, ended, words, words ▸ spelled⟩

theorem length_words (tokens : List Token) : (wordsBeforeEnd tokens).length ≤ tokens.length := by
  rw [wordsBeforeEnd, List.length_map, List.length_dropLast]
  exact Nat.sub_le ..

theorem derives_iff_reads (scanned : tokenize source = .ok tokens) :
    (∃ program, Reading.Program (wordsBeforeEnd tokens) program) ↔
      Grammar.Program (wordsBeforeEnd tokens) := by
  obtain ⟨inner, last, -, -, -, spelled⟩ := words_scanned scanned
  exact ⟨fun ⟨_, read⟩ => read.derives, fun derived => derived.reads spelled.lexical⟩

/-- The tokens of a text are accepted, as a list or one by one, exactly when the words before
the end of input derive from the grammar. -/
theorem parsing_accepts_grammar (scanned : tokenize source = .ok tokens)
    (fits : tokens.length ≤ nesting) :
    ((∃ program, parseTokens nesting (.listed tokens) = .ok program) ↔
      Grammar.Program (wordsBeforeEnd tokens)) ∧
    ((∃ program, parseProgram nesting source = .ok program) ↔
      Grammar.Program (wordsBeforeEnd tokens)) := by
  obtain ⟨inner, last, rfl, ended, words, spelled⟩ := words_scanned scanned
  have short := length_words (inner ++ [last])
  have inside : ∀ t ∈ inner, t.kind ≠ .endOfInput := by
    intro t member
    have lexical := spelled.lexical t.word (words ▸ List.mem_map_of_mem member)
    exact lexical.inside
  have listed := Supply.offers_listed inside ended
  rw [← words] at listed
  have parsed : ∀ program, parseTokens nesting (.listed (inner ++ [last])) = .ok program ↔
      Reading.Program (wordsBeforeEnd (inner ++ [last])) program := fun program =>
    parseTokens_iff listed (Nat.le_trans short fits) short
  have parsed' : ∀ program, parseProgram nesting source = .ok program ↔
      Reading.Program (wordsBeforeEnd (inner ++ [last])) program := fun program =>
    parseTokens_iff (Supply.offers_source spelled) (Nat.le_trans short fits)
      (Nat.le_succ_of_le spelled.length_le)
  simp only [parsed, parsed', derives_iff_reads scanned, and_self]

/-- A call of a factorial, with bars in it and a comma at the end. -/
def acceptedSample : List Token :=
  [⟨.name, "f", 0⟩, ⟨.bang, "!", 1⟩, ⟨.leftParen, "(", 2⟩, ⟨.bar, "|", 3⟩, ⟨.name, "x", 4⟩,
    ⟨.bar, "|", 5⟩, ⟨.comma, ",", 6⟩, ⟨.rightParen, ")", 7⟩, ⟨.semicolon, ";", 8⟩,
    ⟨.endOfInput, "", 9⟩]

/-- A function with two parameters of one name. -/
def rejectedSample : List Token :=
  [⟨.fnWord, "fn", 0⟩, ⟨.name, "f", 3⟩, ⟨.leftParen, "(", 4⟩, ⟨.name, "x", 5⟩, ⟨.comma, ",", 6⟩,
    ⟨.name, "x", 8⟩, ⟨.rightParen, ")", 9⟩, ⟨.assign, "=", 11⟩, ⟨.name, "x", 13⟩,
    ⟨.semicolon, ";", 14⟩, ⟨.endOfInput, "", 15⟩]

theorem parsing_accepts_grammar_sample :
    tokenize "f!(|x|,);" = .ok acceptedSample ∧
      tokenize "fn f(x, x) = x;" = .ok rejectedSample ∧
      Grammar.Program (wordsBeforeEnd acceptedSample) ∧
      ¬ Grammar.Program (wordsBeforeEnd rejectedSample) := by
  have accepted : tokenize "f!(|x|,);" = .ok acceptedSample := rfl
  have rejected : tokenize "fn f(x, x) = x;" = .ok rejectedSample := rfl
  refine ⟨accepted, rejected, ?_, ?_⟩
  · exact (parsing_accepts_grammar accepted (Nat.le_refl _)).1.mp ⟨_, rfl⟩
  · intro derived
    obtain ⟨program, parsed⟩ :=
      (parsing_accepts_grammar rejected (Nat.le_refl _)).1.mpr derived
    cases parsed

open Chain (Suffixed Links)
open Grouping (Link group join signed plain resolve)

end

end PiecewiseLang
