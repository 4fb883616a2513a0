import PiecewiseLang.Proofs.Repl.Balance

/-! When gathered lines are complete. Counting groups and looking at the last token cannot tell
a program from other texts; but on a text that a program can begin with, the count decides
whether the text is a program already. -/
namespace PiecewiseLang

/-- The words of a text: its tokens without the end of input, wherever they stand in it. -/
def content (source : String) : Except Fault (List Word) :=
  (tokenize source).map fun tokens => (tokens.filter (·.kind ≠ .endOfInput)).map Token.word

theorem content_of_spells (spelled : Spells source.toList words) :
    content source = .ok words := by
  obtain ⟨inner, last, scanned, ended, rfl⟩ := tokenize_of_spells spelled
  have kept : inner.filter (·.kind ≠ .endOfInput) = inner := by
    refine List.filter_eq_self.mpr fun t member => decide_eq_true ?_
    exact (spelled.lexical t.word (List.mem_map_of_mem member)).inside
  have dropped : [last].filter (·.kind ≠ .endOfInput) = [] := by simp [ended]
  rw [content, scanned, Except.map, List.filter_append, kept, dropped, List.append_nil]

theorem content_eq_ok : content source = .ok words ↔ Spells source.toList words := by
  constructor
  · intro scanned
    cases found : tokenize source with
    | error fault => simp [content, found, Except.map] at scanned
    | ok tokens =>
      obtain ⟨inner, last, -, -, spelled⟩ := tokenize_spells found
      cases scanned.symm.trans (content_of_spells spelled)
      exact spelled
  · exact content_of_spells

theorem Spells.segments_iff (spelled : Spells source.toList words) :
    Parser.Segments nesting words program ↔ parseProgram nesting source = .ok program :=
  Parser.segments_iff (Supply.offers_source spelled) (Nat.le_succ_of_le spelled.length_le)

namespace Parser

/-- What a program begins with is complete just if it is some statements of the program. -/
theorem Segments.complete_iff (segments : Segments nesting (words ++ rest) program) :
    Complete words ↔ words ≠ [] ∧ ∃ before, Segments nesting words before := by
  constructor
  · intro complete
    obtain ⟨before, -, -, first, -⟩ := segments.cut complete
    obtain ⟨⟨front, text, rfl⟩, -⟩ := complete
    exact ⟨by simp, before, first⟩
  · rintro ⟨some, before, first⟩
    exact first.complete some

end Parser

/-- A text whose words a program begins with is told complete just if it has a word and is a
program itself. -/
theorem completeness_decides_parsing (scanned : content source = .ok words)
    (scanned' : content whole = .ok words') (begins : words <+: words')
    (parsed : parseProgram nesting whole = .ok program) :
    ∃ answer, isComplete source = .ok answer ∧
      (answer = true ↔ words ≠ [] ∧ ∃ before, parseProgram nesting source = .ok before) := by
  have spelled := content_eq_ok.mp scanned
  obtain ⟨rest, rfl⟩ := begins
  have segments := (content_eq_ok.mp scanned').segments_iff.mpr parsed
  obtain ⟨answer, told, complete⟩ := isComplete_spells spelled
  refine ⟨answer, told, ?_⟩
  simp only [complete, segments.complete_iff, spelled.segments_iff]

/-- The words of a piecewise expression up to the semicolon of its only arm. -/
def openedSample : List Word :=
  [⟨.leftBrace, "\x7b"⟩, ⟨.bar, "|"⟩, ⟨.name, "x"⟩, ⟨.bar, "|"⟩, ⟨.ifWord, "if"⟩,
    ⟨.name, "y"⟩, ⟨.semicolon, ";"⟩]

/-- The text stops at a semicolon, as a program does, but inside braces. -/
theorem completeness_decides_parsing_sample : openedSample ≠ [] ∧
    ∃ answer, isComplete "\x7b |x| if y; # and" = .ok answer ∧
      (answer = true ↔ openedSample ≠ [] ∧
        ∃ before, parseProgram 3 "\x7b |x| if y; # and" = .ok before) := by
  have scanned : content "\x7b |x| if y; # and" = .ok openedSample := by decide +kernel
  have scanned' : content "\x7b|x| if y;\x7d;" =
      .ok (openedSample ++ [⟨.rightBrace, "\x7d"⟩, ⟨.semicolon, ";"⟩]) := by decide +kernel
  have parsed : parseProgram 3 "\x7b|x| if y;\x7d;" =
      .ok [.expression (.piecewise [(.magnitude (.name "x"), .name "y")])] := by decide +kernel
  exact ⟨nofun, completeness_decides_parsing scanned scanned' (List.prefix_append ..) parsed⟩

end PiecewiseLang
