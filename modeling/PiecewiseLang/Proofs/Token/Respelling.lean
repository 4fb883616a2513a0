import PiecewiseLang.Proofs.Token.Covering
import PiecewiseLang.Proofs.Token.Fragments

/-! The texts of tokens spell these tokens. A token that is not illegal is scanned again from its
own text, whatever it was that it was scanned from, if a blank or nothing follows. So the tokens
of a text do not depend on the trivia between them, nor on whether aliases are written out. -/
namespace PiecewiseLang

namespace Lexeme

theorem scan_mark (letter : c.isAlpha = false) (numeral : isNumeralChar c = false)
    (rest : List Char) : scan c rest = .ok (mark c rest) := by
  have digit : c.isDigit = false := (Bool.or_eq_false_iff.mp numeral).1
  simp [scan, letter, numeral, digit]

/-- A mark stays the same when nothing follows it. -/
theorem mark_alone (c : Char) (rest : List Char) :
    mark c (rest.take ((mark c rest).width - 1)) = mark c rest := by
  cases known : aliases.lookup c with
  | some entry => simp only [mark, known]
  | none =>
    cases rest with
    | nil => rw [List.take_nil]
    | cons d more =>
      cases double : doubles.lookup (c, d) with
      | some kind => simp [mark, known, double, verbatim]
      | none =>
        cases triple : triples.lookup (c, d) with
        | none => simp [mark, known, double, triple, single, verbatim]
        | some entry => cases more <;> simp [mark, known, double, triple, verbatim]

/-- A legal lexeme stays the same when nothing follows it. Digits that run into a word do not:
without the word they are an integer. -/
theorem scan_alone (scanned : scan c rest = .ok l) (legal : l.kind ≠ .illegal) :
    scan c (rest.take (l.width - 1)) = .ok l := by
  have run : ∀ p : Char → Bool, rest.take (rest.takeWhile p).length = rest.takeWhile p := fun p =>
    (List.prefix_iff_eq_take.mp (List.takeWhile_prefix p)).symm
  unfold scan at scanned
  split at scanned
  case isTrue letter =>
    cases scanned
    change scan c (rest.take (rest.takeWhile isWordChar).length) = _
    have inner := List.all_eq_true.mp (List.all_takeWhile (p := isWordChar) (l := rest))
    have whole : ((rest.takeWhile isWordChar) ++ []).takeWhile isWordChar = _ :=
      (takeWhile_eq_of_stop inner rfl).1
    rw [List.append_nil] at whole
    rw [run, scan, if_pos letter, whole]
  split at scanned
  case isTrue => cases scanned; exact absurd rfl legal
  split at scanned
  case isTrue first =>
    obtain ⟨kind, rfl⟩ := numeral_verbatim scanned
    change scan c (rest.take (rest.takeWhile isNumeralChar).length) = _
    have alone := @scan_numeral _ _ [] (isNumeralChar_run first rest) rfl
    rw [run, ← scanned, ← alone, List.append_nil]
  case isFalse letter _ numeral =>
    cases scanned
    rw [scan_mark (Bool.eq_false_iff.mpr letter) (Bool.eq_false_iff.mpr numeral), mark_alone]

/-- A token text that is scanned as the token when nothing follows. -/
def readsAlone (kind : TokenKind) (text : String) : Bool :=
  match text.toList with
  | [] => false
  | d :: run => !isDivider d && scan d run = .ok ⟨kind, text, run.length + 1⟩

/-- What an alias stands for is scanned from its longer spelling. -/
theorem alias_readsAlone (found : aliases.lookup c = some entry) :
    readsAlone entry.1 entry.2 = true :=
  lookup_forall (fun entry => readsAlone entry.1 entry.2 = true) (by decide +kernel) found

theorem scan_readsAlone (visible : isDivider c = false) (scanned : scan c rest = .ok l)
    (legal : l.kind ≠ .illegal) : readsAlone l.kind l.text = true := by
  cases known : aliases.lookup c with
  | some entry =>
    have made : scan c rest = .ok ⟨entry.1, entry.2, 1⟩ := by
      have letter : c.isAlpha = false := by
        refine Bool.eq_false_iff.mpr fun letter => ?_
        rw [alias_none (.inl (by simp [isWordChar, Char.isAlphanum, letter]))] at known
        cases known
      have numeral : isNumeralChar c = false := by
        refine Bool.eq_false_iff.mpr fun numeral => ?_
        rw [alias_none (.inr numeral)] at known
        cases known
      rw [scan_mark letter numeral]
      simp only [mark, known]
    cases scanned.symm.trans made
    exact alias_readsAlone known
  | none =>
    have alone := scan_alone scanned legal
    obtain ⟨slice, some, ⟨after, split⟩, width, text⟩ := scan_begins scanned
    cases slice with
    | nil => exact absurd rfl some
    | cons d run =>
      rw [List.cons_append] at split
      obtain ⟨rfl, rfl⟩ := List.cons.inj split
      rw [spelling_plain known] at text
      rw [width, List.length_cons, Nat.add_sub_cancel, List.take_left] at alone
      have same : l = ⟨l.kind, l.text, run.length + 1⟩ := by rw [← List.length_cons, ← width]
      simp [readsAlone, text, visible, alone, ← same]

end Lexeme

open Lexeme (scan readsAlone scan_readsAlone scan_divider spelling)

theorem skipTrivia_visible (found : (skipTrivia inside position chars).2 = c :: rest) :
    isDivider c = false := by
  fun_induction skipTrivia inside position chars with
  | case1 => cases found
  | case2 position d more ih => exact ih found
  | case3 position d more blank ih => exact ih found
  | case4 position more blank ih => exact ih found
  | case5 position d more blank notComment =>
    cases found
    simp [isDivider, blank, notComment]

namespace Spells

/-- The text of a token spells the token before a divider and before the end. -/
theorem respelled (alone : readsAlone kind text = true) (legal : kind ≠ .illegal)
    (apart : after.head?.all isDivider = true) (spelled : Spells after words) :
    Spells (text.toList ++ after) (⟨kind, text⟩ :: words) := by
  unfold readsAlone at alone
  split at alone
  case h_1 => cases alone
  case h_2 d run chars =>
    obtain ⟨visible, alone⟩ := Bool.and_eq_true_iff.mp alone
    have alone := of_decide_eq_true alone
    rw [chars]
    refine token (by simpa [isDivider] using visible) ?_ spelled
    cases after with
    | nil => rw [List.append_nil, alone]
    | cons e after =>
      rcases scan_divider apart d run after with same | ⟨-, l, -, alone', -, illegal⟩
      · rw [same, alone]
      · cases alone.symm.trans alone'
        exact absurd illegal legal

theorem readsAlone_all (spelled : Spells chars words) (legal : ∀ w ∈ words, w.kind ≠ .illegal) :
    ∀ w ∈ words, readsAlone w.kind w.text = true := by
  induction spelled with
  | done => exact nofun
  | more found scanned _ ih =>
    obtain ⟨first, others⟩ := List.forall_mem_cons.mp legal
    exact List.forall_mem_cons.mpr
      ⟨scan_readsAlone (skipTrivia_visible found) scanned first, ih others⟩

/-- Texts of tokens with single blanks between them spell the tokens. -/
theorem joined (alone : ∀ w ∈ words, readsAlone w.kind w.text = true)
    (legal : ∀ w ∈ words, w.kind ≠ .illegal) (apart : after.head?.all isDivider = true)
    (spelled : Spells after []) :
    Spells ((" ".intercalate (words.map Word.text)).toList ++ after) words := by
  induction words with
  | nil => exact spelled
  | cons w words ih =>
    obtain ⟨first, others⟩ := List.forall_mem_cons.mp alone
    obtain ⟨firstLegal, othersLegal⟩ := List.forall_mem_cons.mp legal
    cases words with
    | nil => simpa using respelled first firstLegal apart spelled
    | cons next words =>
      have rest := (ih others othersLegal).blank (c := ' ') rfl
      have whole := respelled first firstLegal rfl rest
      rw [List.map_cons] at whole ⊢
      rw [List.map_cons, String.intercalate_cons_cons]
      simpa using whole

end Spells

/-- The word of the end of input. -/
def endWord : Word := ⟨.endOfInput, ""⟩

/-- The tokens of a text are those of its words and one more, which ends it. -/
theorem words_of_tokenize (scanned : tokenize source = .ok tokens) : ∃ words,
    tokens.map Token.word = words ++ [endWord] ∧ Spells source.toList words := by
  obtain ⟨inner, last, rfl, -, spelled⟩ := tokenize_spells scanned
  obtain ⟨slices, covers⟩ := Supply.covers_of_take scanned (Nat.lt_succ_self _)
  obtain ⟨inner', same, -⟩ := covers.ends
  obtain ⟨-, rfl⟩ := List.concat_inj.mp (by simpa using same)
  exact ⟨_, List.map_append, spelled⟩

theorem exists_tokenize (spelled : Spells source.toList words) : ∃ tokens,
    tokenize source = .ok tokens ∧ tokens.map Token.word = words ++ [endWord] := by
  obtain ⟨inner, last, scanned, -, -⟩ := tokenize_of_spells spelled
  obtain ⟨words', whole, spelled'⟩ := words_of_tokenize scanned
  cases spelled.unique spelled'
  exact ⟨_, scanned, whole⟩

/-- Joining the empty text to others adds at most a blank behind them. -/
theorem intercalate_empty (texts : List String) : ∃ after : List Char,
    (" ".intercalate (texts ++ [""])).toList = (" ".intercalate texts).toList ++ after ∧
      (after = [] ∨ after = [' ']) := by
  induction texts with
  | nil => exact ⟨[], rfl, .inl rfl⟩
  | cons text texts ih =>
    cases texts with
    | nil => exact ⟨[' '], by simp [String.intercalate_cons_cons], .inr rfl⟩
    | cons next texts =>
      obtain ⟨after, same, few⟩ := ih
      refine ⟨after, ?_, few⟩
      rw [List.cons_append, List.cons_append, String.intercalate_cons_cons,
        String.intercalate_cons_cons]
      rw [List.cons_append] at same
      simp [same]

theorem Covers.texts (covers : Covers position chars slices tokens) :
    tokens.map (·.text.toList) = slices.map spelling ++ [[]] := by
  induction covers with
  | ended => rfl
  | token _ _ _ _ text _ ih => simp [text, ih]

section

variable {tokens given : List Token}

/-- The texts of all tokens, or of all but the end of input, joined by single blanks are those of
the words, up to a blank behind them. -/
theorem joined_texts (whole : tokens.map Token.word = words ++ [endWord])
    (member : given ∈ [tokens, tokens.dropLast]) : ∃ after : List Char,
    (" ".intercalate (given.map (·.text))).toList =
      (" ".intercalate (words.map Word.text)).toList ++ after ∧ (after = [] ∨ after = [' ']) := by
  have texts : tokens.map (·.text) = words.map Word.text ++ [""] := by
    have mapped := congrArg (List.map Word.text) whole
    rwa [List.map_map, List.map_append] at mapped
  simp only [List.mem_cons, List.not_mem_nil, or_false] at member
  rcases member with rfl | rfl
  · rw [texts]
    exact intercalate_empty _
  · rw [List.map_dropLast, texts, List.dropLast_concat]
    exact ⟨[], (List.append_nil _).symm, .inl rfl⟩

theorem legal_words (whole : tokens.map Token.word = words ++ [endWord])
    (legal : ∀ t ∈ tokens, t.kind ≠ .illegal) : ∀ w ∈ words, w.kind ≠ .illegal := by
  intro w member
  have inside : w ∈ tokens.map Token.word := whole ▸ List.mem_append_left _ member
  obtain ⟨t, found, rfl⟩ := List.mem_map.mp inside
  exact legal t found

/-- The texts of legal tokens, joined by single blanks, with the empty text of the end of input
or without it, have the same tokens again, at other positions. -/
theorem tokenize_joined (scanned : tokenize source = .ok tokens)
    (legal : ∀ t ∈ tokens, t.kind ≠ .illegal) (member : given ∈ [tokens, tokens.dropLast]) :
    ∃ again, tokenize (" ".intercalate (given.map (·.text))) = .ok again ∧
      again.map Token.word = tokens.map Token.word := by
  obtain ⟨words, whole, spelled⟩ := words_of_tokenize scanned
  have legal := legal_words whole legal
  have alone := spelled.readsAlone_all legal
  obtain ⟨after, same, few⟩ := joined_texts whole member
  rw [whole]
  refine exists_tokenize ?_
  rw [same]
  rcases few with rfl | rfl
  · exact Spells.joined alone legal rfl (.done rfl)
  · exact Spells.joined alone legal (by decide) (.done rfl)

end

/-- The texts of legal tokens spell these tokens. Hence two texts with legal tokens have the same
ones, at other positions, if they are made of the same slices with other trivia between them and
with other spellings of aliases. -/
theorem texts_spell_tokens (scanned : tokenize source = .ok tokens)
    (legal : ∀ t ∈ tokens, t.kind ≠ .illegal) :
    (∀ given ∈ [tokens, tokens.dropLast], ∃ again,
      tokenize (" ".intercalate (given.map (·.text))) = .ok again ∧
        again.map Token.word = tokens.map Token.word) ∧
    ∀ other tokens' slices slices', tokenize other = .ok tokens' →
      (∀ t ∈ tokens', t.kind ≠ .illegal) → Covers 0 source.toList slices tokens →
      Covers 0 other.toList slices' tokens' → slices.map spelling = slices'.map spelling →
      tokens'.map Token.word = tokens.map Token.word := by
  refine ⟨fun given member => tokenize_joined scanned legal member, ?_⟩
  intro other tokens' slices slices' scanned' legal' covers covers' same
  obtain ⟨again, joined, words⟩ := tokenize_joined scanned legal (List.mem_cons_self ..)
  obtain ⟨again', joined', words'⟩ := tokenize_joined scanned' legal' (List.mem_cons_self ..)
  have texts : tokens.map (·.text) = tokens'.map (·.text) := by
    have chars : tokens.map (·.text.toList) = tokens'.map (·.text.toList) := by
      rw [covers.texts, covers'.texts, same]
    simpa [Function.comp_def] using congrArg (List.map String.ofList) chars
  rw [texts, joined'] at joined
  cases joined
  rw [← words, ← words']

/-- The tokens of a membership that is written with an alias and without blanks. -/
def aliasSample : List Token :=
  [⟨.real, "5.", 0⟩, ⟨.inWord, "in", 2⟩, ⟨.name, "x", 3⟩, ⟨.endOfInput, "", 4⟩]

/-- The tokens of the same membership with a word, a blank and a comment. -/
def commentSample : List Token :=
  [⟨.real, "5.", 0⟩, ⟨.inWord, "in", 2⟩, ⟨.name, "x", 7⟩, ⟨.endOfInput, "", 9⟩]

theorem aliasSample_covers : Covers 0 "5.∈x".toList [['5', '.'], ['∈'], ['x']] aliasSample := by
  have last := @Covers.ended [] 4 .none
  have third := @Covers.token [] ['x'] 3 _ _ _ ⟨.name, "x", 3⟩ .none nofun nofun rfl rfl last
  have second := @Covers.token [] ['∈'] 2 _ _ _ ⟨.inWord, "in", 2⟩ .none nofun nofun rfl rfl third
  exact @Covers.token [] ['5', '.'] 0 _ _ _ ⟨.real, "5.", 0⟩ .none nofun nofun rfl rfl second

theorem commentSample_covers :
    Covers 0 "5.in #\nx ".toList [['5', '.'], ['i', 'n'], ['x']] commentSample := by
  have blank : Trivia true [' '] := .blank rfl .none
  have comment : Trivia false [' ', '#', '\n'] := .blank rfl (@Trivia.comment false [] [] nofun .none)
  have last := @Covers.ended _ 8 blank
  have third := @Covers.token _ ['x'] 4 _ _ _ ⟨.name, "x", 7⟩ comment nofun nofun rfl rfl last
  have second :=
    @Covers.token [] ['i', 'n'] 2 _ _ _ ⟨.inWord, "in", 2⟩ .none nofun nofun rfl rfl third
  exact @Covers.token [] ['5', '.'] 0 _ _ _ ⟨.real, "5.", 0⟩ .none nofun nofun rfl rfl second

theorem texts_spell_tokens_sample :
    tokenize "5.∈x" = .ok aliasSample ∧ tokenize "5.in #\nx " = .ok commentSample ∧
    (∃ again, tokenize "5. in x " = .ok again ∧
      again.map Token.word = aliasSample.map Token.word) ∧
    commentSample.map Token.word = aliasSample.map Token.word := by
  have scanned : tokenize "5.∈x" = .ok aliasSample := by decide +kernel
  have scanned' : tokenize "5.in #\nx " = .ok commentSample := by decide +kernel
  obtain ⟨joined, alike⟩ := texts_spell_tokens scanned (by decide)
  have text : " ".intercalate (aliasSample.map (·.text)) = "5. in x " := by decide +kernel
  refine ⟨scanned, scanned', text ▸ joined aliasSample (List.mem_cons_self ..), ?_⟩
  exact alike _ _ _ _ scanned' (by decide) aliasSample_covers commentSample_covers (by decide)

end PiecewiseLang
