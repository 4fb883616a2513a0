import PiecewiseLang.Limits
import PiecewiseLang.Proofs.Parsing.Agreement
import PiecewiseLang.Proofs.Token.Lines

/-! Texts and lists of tokens as supplies. A text is scanned one token ahead of the parser, a
list has been scanned before; the cursors on them show the same tokens, up to a fault if there
is one. So parsing a text and parsing the list of its tokens come to the same, as long as the
room that scanning takes is not what stops the parser. -/
namespace PiecewiseLang

open PiecewiseLang.Cursor PiecewiseLang.Parser

theorem length_lt_of_code (found : code chars = c :: rest) : rest.length < chars.length := by
  have shorter := skipTrivia_length false 0 chars
  rwa [← code, found, List.length_cons] at shorter

namespace Supply

theorem advance_inside {c : Cursor} (inside : c.current.kind ≠ .endOfInput) :
    c.advance = draw c.current.position c.supply := if_neg inside

theorem draw_of_next {supply : Supply} (next : supply.next = .ok (some (t, rest)))
    (before : Int) : draw before supply = .ok ⟨t, rest⟩ := by
  rw [draw, next]

theorem take_of_next {supply : Supply} (next : supply.next = .ok (some (t, rest))) (count : Nat) :
    take (count + 1) supply = (take count rest).map (t :: ·) := by
  simp only [take, next, bind, Except.bind]
  cases take count rest <;> rfl

/-- The cursor on a text shows the tokens of the text, as the cursor on their list does. -/
theorem alike_of_take (taken : take count (.source position chars false) = .ok tokens)
    (enough : chars.length < count) (before before' : Int) :
    ∃ c d left, draw before (.source position chars false) = .ok c ∧
      draw before' (.listed tokens) = .ok d ∧ Alike none left c d ∧ left < tokens.length ∧
        left ≤ chars.length := by
  induction count generalizing position chars tokens before before' with
  | zero => omega
  | succ count ih =>
    obtain ⟨out, next, taken⟩ := bind_eq_ok.mp taken
    rcases next_cases next with ⟨-, here, rfl⟩ | ⟨first, rest, lexeme, here, found, scanned, rfl⟩
    · obtain ⟨others, -, whole⟩ := bind_eq_ok.mp taken
      cases whole
      exact ⟨_, _, 0, draw_of_next next before, rfl, .ended rfl rfl, Nat.succ_pos _,
        Nat.zero_le _⟩
    · obtain ⟨others, more, whole⟩ := bind_eq_ok.mp taken
      cases whole
      have shorter := length_lt_of_code found
      obtain ⟨c, d, left, shown, shown', alike, less, le⟩ :=
        ih more (by rw [List.length_drop]; omega) here here
      rw [List.length_drop] at le
      have lexical := Lexeme.scan_lexical scanned
      refine ⟨_, _, left + 1, draw_of_next next before, rfl, .more lexical rfl ?_ ?_ alike,
        Nat.succ_lt_succ less, by omega⟩
      · exact (advance_inside lexical.inside).trans shown
      · exact (advance_inside lexical.inside).trans shown'

/-- A fault in taking tokens from a text comes from the first of them, or from the rest. -/
theorem take_cases (failed : take (count + 1) (.source position chars false) = .error fault) :
    ∃ c rest, code chars = c :: rest ∧
      (Lexeme.scan c rest = .error fault ∧ next (.source position chars false) = .error fault ∨
        ∃ lexeme, ∃ here : Nat, Lexeme.scan c rest = .ok lexeme ∧
          next (.source position chars false) = .ok (some (⟨lexeme.kind, lexeme.text, here⟩,
            .source (here + lexeme.width) (rest.drop (lexeme.width - 1)) false)) ∧
          take count (.source (here + lexeme.width) (rest.drop (lexeme.width - 1)) false) =
            .error fault) := by
  cases found : code chars with
  | nil =>
    obtain ⟨here, next⟩ := next_ended found position
    rw [take_of_next next, take_ended] at failed
    cases failed
  | cons c rest =>
    refine ⟨c, rest, rfl, ?_⟩
    obtain ⟨here, next⟩ := next_scanned found position
    cases scanned : Lexeme.scan c rest with
    | error other =>
      rw [scanned] at next
      rw [take, next] at failed
      cases failed
      exact .inl ⟨rfl, next⟩
    | ok lexeme =>
      rw [scanned] at next
      rw [take_of_next next] at failed
      refine .inr ⟨lexeme, here, rfl, next, ?_⟩
      cases later : take count
          (source (here + lexeme.width) (rest.drop (lexeme.width - 1)) false) with
      | ok others => rw [later] at failed; cases failed
      | error other => rwa [later] at failed

/-- The cursor on a text that cannot be scanned to its end comes to the fault that is met. -/
theorem broken_of_take (failed : take count (.source position chars false) = .error fault)
    (before : Int) : draw before (.source position chars false) = .error (.fault fault) ∨
      ∃ c left, draw before (.source position chars false) = .ok c ∧
        Alike (some fault) left c c ∧ left ≤ chars.length := by
  induction count generalizing position chars before with
  | zero => cases failed
  | succ count ih =>
    obtain ⟨first, rest, found, ⟨-, next⟩ | ⟨lexeme, here, scanned, next, later⟩⟩ :=
      take_cases failed
    · exact .inl (by rw [draw, next])
    · have shorter := length_lt_of_code found
      have lexical := Lexeme.scan_lexical scanned
      have drawn := draw_of_next next before
      rcases ih later here with broke | ⟨c, left, shown, alike, le⟩
      · refine .inr ⟨_, 1, drawn, .broken lexical rfl ?_ ?_, by omega⟩ <;>
          exact (advance_inside lexical.inside).trans broke
      · rw [List.length_drop] at le
        refine .inr ⟨_, left + 1, drawn, .more lexical rfl ?_ ?_ alike, by omega⟩ <;>
          exact (advance_inside lexical.inside).trans shown

/-- A text that cannot be scanned to its end has an overlong run of digits. -/
theorem take_fault (failed : take count (.source position chars false) = .error fault) :
    fault = .overlongInteger ∧ Lexeme.Overlong chars := by
  induction count generalizing position chars with
  | zero => cases failed
  | succ count ih =>
    obtain ⟨c, rest, found, broken⟩ := take_cases failed
    have suffix : c :: rest <:+ chars := found ▸ skipTrivia_suffix false 0 chars
    rcases broken with ⟨scanned, -⟩ | ⟨lexeme, here, -, -, later⟩
    · obtain ⟨same, overlong⟩ := Lexeme.scan_fault scanned
      exact ⟨same, overlong.of_infix suffix.isInfix⟩
    · obtain ⟨same, overlong⟩ := ih later
      have tail := (List.drop_suffix (lexeme.width - 1) rest).trans (List.suffix_cons c rest)
      exact ⟨same, overlong.of_infix (tail.trans suffix).isInfix⟩

end Supply

/-- Tokens that could have been scanned are parsed without a fault. -/
theorem parseTokens_ne_fault {supply : Supply} (offers : supply.Offers words)
    (lexical : ∀ w ∈ words, w.Lexical) (bounded : words.length ≤ supply.size) :
    parseTokens nesting supply ≠ .error (.fault fault) := by
  obtain ⟨c, d, started, passed, ended⟩ := offers
  intro failed
  have alike := Alike.of_passes passed ended lexical
  obtain ⟨-, only⟩ := parseTokens_agree started started alike bounded bounded (Nat.le_refl _)
  cases only fault failed

/-- Parsing a text meets no fault but the one that dividing it into tokens meets. -/
theorem tokenize_of_parse_fault (failed : parseProgram nesting source = .error (.fault fault)) :
    tokenize source = .error fault := by
  cases scanned : tokenize source with
  | ok tokens =>
    obtain ⟨inner, last, -, -, spelled⟩ := tokenize_spells scanned
    have bounded := Nat.le_succ_of_le spelled.length_le
    refine absurd failed ?_
    exact parseTokens_ne_fault (Supply.offers_source spelled) spelled.lexical bounded
  | error other =>
    rcases Supply.broken_of_take scanned 0 with broken | ⟨c, left, started, alike, le⟩
    · rw [parseProgram, parseTokens, Cursor.start, Supply.ofSource, broken] at failed
      cases failed
      rfl
    · have bounded : left ≤ (Supply.ofSource source).size := Nat.le_succ_of_le le
      obtain ⟨-, only⟩ := parseTokens_agree started started alike bounded bounded (Nat.le_refl _)
      cases only fault failed
      rfl

/-- Parsing breaks down on overlong runs of digits and on nothing else. -/
theorem parseProgram_fault (failed : parseProgram nesting source = .error (.fault fault)) :
    fault = .overlongInteger ∧ Lexeme.Overlong source.toList :=
  Supply.take_fault (tokenize_of_parse_fault failed)

/-- A text that can be divided into tokens is parsed as the list of its tokens is, with the same
statements or the same error at the same position. Where the list is parsed with more nesting
allowed, as it is by itself, this holds unless the text is stopped for its nesting. Without its
last token, the end of input, the list is parsed with the same statements, and it fails if the
whole list fails; and no failure is a fault. -/
theorem text_and_tokens_parse_alike (scanned : tokenize source = .ok tokens) :
    ∃ inner last, tokens = inner ++ [last] ∧ last.kind = .endOfInput ∧
      (∀ nesting, parseProgram nesting source = parseTokens nesting (.listed tokens)) ∧
      (∀ nesting nesting', nesting ≤ nesting' →
        parseProgram nesting source = parseTokens nesting' (.listed tokens) ∨
        ∃ position, parseProgram nesting source = .error (.error ⟨.nestedTooDeeply, position⟩)) ∧
      ∀ nesting, (parseProgram nesting source = parseListed nesting tokens ∨
          ∃ position, parseProgram nesting source = .error (.error ⟨.nestedTooDeeply, position⟩)) ∧
        (∀ program, parseListed nesting inner = .ok program ↔
          parseListed nesting tokens = .ok program) ∧
        ∀ fault, parseListed nesting tokens ≠ .error (.fault fault) ∧
          parseListed nesting inner ≠ .error (.fault fault) := by
  obtain ⟨inner, last, rfl, ended, spelled⟩ := tokenize_spells scanned
  have inside : ∀ t ∈ inner, t.kind ≠ .endOfInput := fun t member =>
    (spelled.lexical t.word (List.mem_map_of_mem member)).inside
  have whole : (Supply.listed (inner ++ [last])).Offers (inner.map Token.word) :=
    Supply.offers_listed inside ended
  have cut : (Supply.listed inner).Offers (inner.map Token.word) := by
    obtain ⟨c, d, position, drawn, passed, next⟩ := draw_listed inside [] 0
    rw [List.append_nil] at drawn
    cases next
    exact ⟨c, _, drawn, passed, rfl⟩
  have bounded : (inner.map Token.word).length ≤ (Supply.listed (inner ++ [last])).size := by
    simp [Supply.size]
  have bounded' : (inner.map Token.word).length ≤ (Supply.listed inner).size := by
    simp [Supply.size]
  obtain ⟨c, d, left, started, started', alike, less, le⟩ :=
    Supply.alike_of_take scanned (Nat.lt_succ_self _) 0 0
  have agree {nesting nesting' : Nat} (allowed : nesting ≤ nesting') := (parseTokens_agree started
    started' alike (Nat.le_succ_of_le le) (Nat.le_of_lt less) allowed).1
  refine ⟨inner, last, rfl, ended, fun nesting => ?_, fun nesting nesting' allowed => ?_,
    fun nesting => ⟨?_, fun program => ?_, fun fault => ⟨?_, ?_⟩⟩⟩
  · exact (agree (Nat.le_refl nesting)).resolve_right fun stopped => Nat.lt_irrefl _ stopped.1
  · exact (agree allowed).imp_right fun stopped => stopped.2
  · exact (agree (Nat.le_succ nesting)).imp_right fun stopped => stopped.2
  · rw [parseListed, parseListed, ← segments_iff cut bounded', segments_iff whole bounded]
  · exact parseTokens_ne_fault whole spelled.lexical bounded
  · exact parseTokens_ne_fault cut spelled.lexical bounded'

/-- The tokens of a declaration whose last bar is missing. -/
def unclosedSample : List Token :=
  [⟨.fnWord, "fn", 0⟩, ⟨.name, "f", 3⟩, ⟨.leftParen, "(", 4⟩, ⟨.rightParen, ")", 5⟩,
    ⟨.assign, "=", 7⟩, ⟨.bar, "|", 9⟩, ⟨.integer, "1", 10⟩, ⟨.endOfInput, "", 17⟩]

theorem text_and_tokens_parse_alike_sample :
    tokenize "fn f() = |1 # one" = .ok unclosedSample ∧
    parseProgram 3 "fn f() = |1 # one" =
      .error (.error ⟨.expected .closeBar ⟨.endOfInput, "", 17⟩, some 17⟩) ∧
    parseListed 3 unclosedSample = parseProgram 3 "fn f() = |1 # one" ∧
    parseTokens 1 (.listed unclosedSample) = .error (.error ⟨.nestedTooDeeply, some 10⟩) ∧
    parseProgram 1 "fn f() = |1 # one" = .error (.error ⟨.nestedTooDeeply, some 10⟩) := by
  have scanned : tokenize "fn f() = |1 # one" = .ok unclosedSample := by decide +kernel
  have failed : parseProgram 3 "fn f() = |1 # one" =
      .error (.error ⟨.expected .closeBar ⟨.endOfInput, "", 17⟩, some 17⟩) := by decide +kernel
  have deep : parseTokens 1 (.listed unclosedSample) =
      .error (.error ⟨.nestedTooDeeply, some 10⟩) := by decide +kernel
  obtain ⟨_, _, _, _, same, _, each⟩ := text_and_tokens_parse_alike scanned
  refine ⟨scanned, failed, ?_, deep, (same 1).trans deep⟩
  refine ((each 3).1.resolve_right ?_).symm
  rintro ⟨position, stopped⟩
  cases failed.symm.trans stopped

/-- A number in more parentheses than may be open while a text is scanned. -/
def enclosedChars : List Char :=
  List.replicate 495 '(' ++ ['1'] ++ List.replicate 495 ')' ++ [';']

/-- A text can be stopped for its nesting where the list of its tokens is parsed. -/
theorem deep_text_stops_where_tokens_parse :
    ∃ tokens, tokenize (String.ofList enclosedChars) = .ok tokens ∧
      parseProgram Limits.default.nesting (String.ofList enclosedChars) =
        .error (.error ⟨.nestedTooDeeply, some 495⟩) ∧
      parseListed Limits.default.nesting tokens = .ok [.expression (.integer 1)] := by
  -- The characters are computed with as a list, where the text would have to be decoded first.
  rw [tokenize, parseProgram, Supply.ofSource, String.toList_ofList]
  have parsed : (Supply.source 0 enclosedChars false).toList.toOption.map
      (parseListed Limits.default.nesting) = some (.ok [.expression (.integer 1)]) := by
    decide +kernel
  cases scanned : (Supply.source 0 enclosedChars false).toList with
  | error fault =>
    rw [scanned] at parsed
    cases parsed
  | ok tokens =>
    rw [scanned] at parsed
    exact ⟨tokens, rfl, by decide +kernel, Option.some.inj parsed⟩

end PiecewiseLang
