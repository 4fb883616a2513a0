import PiecewiseLang.Proofs.Token.Spelling
import PiecewiseLang.Text.Lines

/-! Texts in lines. A line feed ends comments and divides tokens, and only an illegal token can
hold one. So the words of a text are those of its lines, one line after the other. -/
namespace PiecewiseLang

/-- Trivia that reach the end of a text go on behind a line feed. -/
theorem skipTrivia_lineFeed (inside : Bool) (position : Nat) (first rest : List Char) :
    skipTrivia inside position (first ++ '\n' :: rest) =
      match skipTrivia inside position first with
      | (here, []) => skipTrivia false (here + 1) rest
      | (here, c :: more) => (here, c :: (more ++ '\n' :: rest)) := by
  fun_induction skipTrivia inside position first with
  | case1 inside position =>
    cases inside with
    | true => simp [skipTrivia]
    | false => exact if_pos (by decide)
  | case2 position c first ih => exact ih
  | case3 position c first blank ih => simpa [skipTrivia, blank] using ih
  | case4 position first blank ih => simpa [skipTrivia, blank] using ih
  | case5 position c first blank notComment => simp [skipTrivia, blank, notComment]

theorem code_lineFeed_trivia (ended : code first = []) :
    code (first ++ '\n' :: rest) = code rest := by
  obtain ⟨here, trivia⟩ := skipTrivia_eq 0 first
  rw [code, skipTrivia_lineFeed, trivia, ended]
  exact skipTrivia_snd ..

theorem code_lineFeed_cons (found : code first = c :: more) :
    code (first ++ '\n' :: rest) = c :: (more ++ '\n' :: rest) := by
  obtain ⟨here, trivia⟩ := skipTrivia_eq 0 first
  rw [code, skipTrivia_lineFeed, trivia, found]

namespace Lexeme

theorem takeWhile_stop {p : Char → Bool} (stops : p d = false) (first rest : List Char) :
    (first ++ d :: rest).takeWhile p = first.takeWhile p := by
  induction first with
  | nil => simp [stops]
  | cons c first ih => simp [List.takeWhile_cons, ih]

theorem dropWhile_stop {p : Char → Bool} (stops : p d = false) (first rest : List Char) :
    (first ++ d :: rest).dropWhile p = first.dropWhile p ++ d :: rest := by
  induction first with
  | nil => simp [stops]
  | cons c first ih =>
    rw [List.cons_append, List.dropWhile_cons, List.dropWhile_cons, ih]
    split <;> rfl

theorem head_any_stop {p : Char → Bool} (stops : p d = false) (first rest : List Char) :
    (first ++ d :: rest).head?.any p = first.head?.any p := by
  cases first <;> simp [stops]

/-- No mark of several characters has a divider in the second place. -/
theorem lookup_divider {table : List ((Char × Char) × β)}
    (all : ∀ entry ∈ table, isDivider entry.1.2 = false) (divides : isDivider d = true) (c : Char) :
    table.lookup (c, d) = none := by
  refine List.lookup_eq_none_iff.mpr fun entry member => bne_iff_ne.mpr fun same => ?_
  have plain := all entry member
  rw [← same, divides] at plain
  cases plain

/-- The text ends behind two characters that a mark of three begins with. -/
def Unfinished (c : Char) (first : List Char) : Prop :=
  ∃ e, first = [e] ∧ (c, e) ∈ triples.map Prod.fst

/-- A divider behind a mark is no part of it, unless the mark is unfinished. -/
theorem mark_divider (finished : ¬Unfinished c first) (divides : isDivider d = true)
    (rest : List Char) : mark c (first ++ d :: rest) = mark c first := by
  cases known : aliases.lookup c with
  | some entry => simp only [mark, known]
  | none =>
    cases first with
    | nil =>
      have double : doubles.lookup (c, d) = none := lookup_divider (by decide) divides c
      have triple : triples.lookup (c, d) = none := lookup_divider (by decide) divides c
      simp only [mark, known, List.nil_append, double, triple]
    | cons e first =>
      cases double : doubles.lookup (c, e) with
      | some kind => simp only [mark, known, double, List.cons_append]
      | none =>
        cases triple : triples.lookup (c, e) with
        | none => simp only [mark, known, double, triple, List.cons_append]
        | some entry =>
          cases first with
          | nil =>
            obtain ⟨before, after, split, -⟩ := List.lookup_eq_some_iff.mp triple
            exact absurd ⟨e, rfl, List.mem_map.mpr ⟨((c, e), entry), by simp [split], rfl⟩⟩ finished
          | cons f first => simp only [mark, known, double, triple, List.cons_append]

/-- What is scanned before a divider is what is scanned before the end of a text, unless the text
ends in an unfinished mark. -/
theorem scan_finished (finished : ¬Unfinished c first) (divides : isDivider d = true)
    (rest : List Char) : scan c (first ++ d :: rest) = scan c first := by
  obtain ⟨word, numeral, digit⟩ := stops_of_divider divides
  have meets : ((first ++ d :: rest).dropWhile Char.isDigit).head?.any isWordChar =
      (first.dropWhile Char.isDigit).head?.any isWordChar := by
    rw [dropWhile_stop digit, head_any_stop word]
  unfold scan
  rw [meets, takeWhile_stop digit, takeWhile_stop word, takeWhile_stop numeral,
    mark_divider finished divides]

/-- An unfinished mark is illegal, and so it is with a divider in the place of what it misses. -/
theorem scan_unfinished (unfinished : (c, e) ∈ triples.map Prod.fst) :
    scan c [e] = .ok (verbatim .illegal [c, e]) ∧ ∀ d rest, isDivider d = true →
      scan c (e :: d :: rest) = .ok (verbatim .illegal [c, e, d]) := by
  simp only [triples, List.map_cons, List.map_nil, List.mem_cons, Prod.mk.injEq, List.not_mem_nil,
    or_false] at unfinished
  rcases unfinished with ⟨rfl, rfl⟩ | ⟨rfl, rfl⟩ | ⟨rfl, rfl⟩ | ⟨rfl, rfl⟩
  all_goals
    refine ⟨rfl, fun d rest divides => ?_⟩
    refine congrArg (fun kind => Except.ok (verbatim kind [_, _, d])) (if_neg ?_)
    rintro rfl
    cases divides

/-- What is scanned before a divider is what is scanned before the end of a text, or both are
illegal. -/
theorem scan_divider (divides : isDivider d = true) (c : Char) (first rest : List Char) :
    scan c (first ++ d :: rest) = scan c first ∨
      ∃ l l', scan c (first ++ d :: rest) = .ok l ∧ scan c first = .ok l' ∧
        l.kind = .illegal ∧ l'.kind = .illegal := by
  by_cases ends : Unfinished c first
  · obtain ⟨e, rfl, unfinished⟩ := ends
    obtain ⟨alone, followed⟩ := scan_unfinished unfinished
    exact .inr ⟨_, _, followed d rest divides, alone, rfl, rfl⟩
  · exact .inl (scan_finished ends divides rest)

end Lexeme

open Lexeme

theorem lineFeed_divides : isDivider '\n' = true := by decide

/-- The words of a text that goes on behind a line feed. Those of its own are followed by those of
the rest, but an unfinished mark takes the line feed. -/
inductive SpellsAcross (rest : List Char) : List Char → List Word → Prop where
  | behind : code first = [] → Spells rest words → SpellsAcross rest first words
  | unfinished : code first = [c, e] → (c, e) ∈ triples.map Prod.fst → Spells rest words →
      SpellsAcross rest first ((verbatim .illegal [c, e, '\n']).toWord :: words)
  | token : code first = c :: more → ¬Unfinished c more → scan c more = .ok lexeme →
      SpellsAcross rest (more.drop (lexeme.width - 1)) words →
      SpellsAcross rest first (lexeme.toWord :: words)

namespace Spells

/-- The words of a text are those of its code. -/
theorem of_code (spelled : Spells chars words) (same : code chars = code chars') :
    Spells chars' words := by
  cases spelled with
  | done ended => exact .done (same ▸ ended)
  | more found scanned spelled => exact .more (same ▸ found) scanned spelled

theorem across (spelled : Spells (first ++ '\n' :: rest) words) : SpellsAcross rest first words := by
  induction words generalizing first with
  | nil =>
    cases found : code first with
    | nil => exact .behind found (spelled.of_code (code_lineFeed_trivia found))
    | cons c more =>
      cases spelled with
      | done ended => cases (code_lineFeed_cons found).symm.trans ended
  | cons w words ih =>
    cases found : code first with
    | nil => exact .behind found (spelled.of_code (code_lineFeed_trivia found))
    | cons c more =>
      cases spelled with
      | @more _ _ _ lexeme _ next scanned spelled =>
        cases next.symm.trans (code_lineFeed_cons found)
        by_cases ends : Unfinished c more
        · obtain ⟨e, rfl, unfinished⟩ := ends
          obtain ⟨-, followed⟩ := scan_unfinished unfinished
          cases scanned.symm.trans (followed '\n' rest lineFeed_divides)
          exact .unfinished found unfinished spelled
        · have alone := (scan_finished ends lineFeed_divides rest).symm.trans scanned
          have short := scan_width alone
          rw [List.drop_append_of_le_length (by omega)] at spelled
          exact .token found ends alone (ih spelled)

end Spells

namespace SpellsAcross

theorem spells (spelled : SpellsAcross rest first words) : Spells (first ++ '\n' :: rest) words := by
  induction spelled with
  | behind found spelled => exact spelled.of_code (code_lineFeed_trivia found).symm
  | unfinished found unfinished spelled =>
    obtain ⟨-, followed⟩ := scan_unfinished unfinished
    exact .more (code_lineFeed_cons found) (followed '\n' rest lineFeed_divides) spelled
  | token found ends scanned _ ih =>
    have short := scan_width scanned
    refine .more (code_lineFeed_cons found)
      ((scan_finished ends lineFeed_divides rest).trans scanned) ?_
    rwa [List.drop_append_of_le_length (by omega)]

/-- What stands behind the line feed matters by its code only. -/
theorem of_code (spelled : SpellsAcross rest first words) (same : code rest = code rest') :
    SpellsAcross rest' first words := by
  induction spelled with
  | behind found spelled => exact .behind found (spelled.of_code same)
  | unfinished found unfinished spelled =>
    exact .unfinished found unfinished (spelled.of_code same)
  | token found ends scanned _ ih => exact .token found ends scanned ih

/-- Without words behind the line feed all words stand before it, unless the last one is illegal. -/
theorem before (spelled : SpellsAcross rest first words) (trivial : code rest = []) :
    Spells first words ∨ ∃ front text, words = front ++ [⟨.illegal, text⟩] := by
  induction spelled with
  | behind found spelled =>
    obtain rfl := spelled.unique (.done trivial)
    exact .inl (.done found)
  | unfinished _ _ spelled =>
    obtain rfl := spelled.unique (.done trivial)
    exact .inr ⟨[], _, rfl⟩
  | token found _ scanned _ ih =>
    rcases ih with spelled | ⟨front, text, rfl⟩
    · exact .inl (.more found scanned spelled)
    · exact .inr ⟨_ :: front, text, rfl⟩

end SpellsAcross

namespace Spells

/-- The words of a text before and behind a line feed. -/
theorem split_lineFeed (spelled : Spells (first ++ '\n' :: rest) words)
    (legal : ∀ w ∈ words, w.kind ≠ .illegal) :
    ∃ before after, words = before ++ after ∧ Spells first before ∧ Spells rest after := by
  replace spelled := spelled.across
  induction spelled with
  | behind found spelled => exact ⟨[], _, rfl, .done found, spelled⟩
  | unfinished => exact absurd rfl (legal _ (List.mem_cons_self ..))
  | token found _ scanned _ ih =>
    obtain ⟨before, after, rfl, spelled, spelled'⟩ :=
      ih fun w member => legal w (List.mem_cons_of_mem _ member)
    exact ⟨_ :: before, after, rfl, .more found scanned spelled, spelled'⟩

theorem append_lineFeed (spelled : Spells first before) (spelled' : Spells rest after)
    (legal : ∀ w ∈ before, w.kind ≠ .illegal) :
    Spells (first ++ '\n' :: rest) (before ++ after) := by
  refine SpellsAcross.spells ?_
  induction spelled with
  | done ended => exact .behind ended spelled'
  | @more chars c more lexeme words found scanned _ ih =>
    refine .token found ?_ scanned (ih fun w member => legal w (List.mem_cons_of_mem _ member))
    rintro ⟨e, rfl, unfinished⟩
    cases scanned.symm.trans (scan_unfinished unfinished).1
    exact absurd rfl (legal _ (List.mem_cons_self ..))

end Spells

theorem Text.joinLines_append (some : lines ≠ []) (some' : more ≠ []) :
    (joinLines (lines ++ more)).toList =
      (joinLines lines).toList ++ '\n' :: (joinLines more).toList := by
  rw [joinLines, String.intercalate_append_of_ne_nil some some', String.toList_append,
    String.toList_append, List.append_assoc]
  rfl

/-- The words of lines, one line after the other. -/
inductive SpellsLines : List String → List Word → Prop where
  | nil : SpellsLines [] []
  | cons {line : String} {lines : List String} {words rest : List Word} :
      Spells line.toList words → SpellsLines lines rest → SpellsLines (line :: lines) (words ++ rest)

namespace SpellsLines

theorem concat (spelled : SpellsLines lines words) (last : Spells line.toList more) :
    SpellsLines (lines ++ [line]) (words ++ more) := by
  induction spelled with
  | nil => simpa using SpellsLines.cons last .nil
  | cons first _ ih =>
    rw [List.cons_append, List.append_assoc]
    exact .cons first ih

/-- Lines that are joined spell what they spell one by one. -/
theorem joined (spelled : SpellsLines lines words) (legal : ∀ w ∈ words, w.kind ≠ .illegal) :
    Spells (Text.joinLines lines).toList words := by
  induction spelled with
  | nil => exact .done rfl
  | @cons line lines words more first spelled ih =>
    have others := ih fun w member => legal w (List.mem_append_right _ member)
    cases lines with
    | nil =>
      cases spelled
      simpa [Text.joinLines] using first
    | cons next lines =>
      have whole := first.append_lineFeed others fun w member =>
        legal w (List.mem_append_left _ member)
      rw [← List.singleton_append,
        Text.joinLines_append (List.cons_ne_nil _ _) (List.cons_ne_nil _ _)]
      rwa [Text.joinLines, String.intercalate_singleton]

/-- Lines without words have none in any of them. -/
theorem empty (spelled : SpellsLines lines []) : ∀ line ∈ lines, Spells line.toList [] := by
  generalize none : ([] : List Word) = words at spelled
  induction spelled with
  | nil => exact nofun
  | cons first _ ih =>
    obtain ⟨rfl, rfl⟩ := List.nil_eq_append_iff.mp none
    intro line member
    rcases List.mem_cons.mp member with rfl | member
    · exact first
    · exact ih rfl line member

end SpellsLines

theorem Text.splitLines_cons (inside : c ≠ '\n') (split : Text.splitLines chars = piece :: pieces) :
    Text.splitLines (c :: chars) = (c :: piece) :: pieces := by
  rw [Text.splitLines] at split ⊢
  rw [Text.splitAt, if_neg (by simpa using inside), split]

theorem Text.splitLines_cases (chars : List Char) : Text.splitLines chars = [chars] ∨
    ∃ first rest, chars = first ++ '\n' :: rest ∧
      Text.splitLines chars = first :: Text.splitLines rest := by
  induction chars with
  | nil => exact .inl rfl
  | cons c chars ih =>
    by_cases feed : c = '\n'
    · subst feed
      exact .inr ⟨[], chars, rfl, rfl⟩
    · rcases ih with whole | ⟨first, rest, rfl, split⟩
      · exact .inl (Text.splitLines_cons feed whole)
      · exact .inr ⟨c :: first, rest, rfl, Text.splitLines_cons feed split⟩

/-- A text that is split into lines. -/
theorem Spells.lines (spelled : Spells chars words) (legal : ∀ w ∈ words, w.kind ≠ .illegal) :
    SpellsLines ((Text.splitLines chars).map String.ofList) words := by
  generalize split : Text.splitLines chars = lines
  induction lines generalizing chars words with
  | nil =>
    rcases Text.splitLines_cases chars with whole | ⟨first, rest, -, whole⟩ <;>
      cases split.symm.trans whole
  | cons line lines ih =>
    rcases Text.splitLines_cases chars with whole | ⟨first, rest, rfl, whole⟩
    · cases split.symm.trans whole
      rw [← List.append_nil words]
      exact .cons (by rwa [String.toList_ofList]) .nil
    · cases split.symm.trans whole
      obtain ⟨before, after, rfl, spelled, spelled'⟩ := spelled.split_lineFeed legal
      refine .cons (by rwa [String.toList_ofList]) (ih spelled' (fun w member => ?_) rfl)
      exact legal w (List.mem_append_right _ member)

theorem Supply.take_ended (count position : Nat) :
    take count (.source position [] true) = .ok [] := by
  cases count <;> rfl

/-- A text that spells words has tokens. -/
theorem Supply.take_of_spells (spelled : Spells chars words) (position : Nat)
    (enough : chars.length < count) : ∃ inner last,
      take count (.source position chars false) = .ok (inner ++ [last]) ∧
        last.kind = .endOfInput ∧ inner.map Token.word = words := by
  induction count generalizing chars words position with
  | zero => omega
  | succ count ih =>
    cases spelled with
    | done ended =>
      obtain ⟨here, next⟩ := next_ended ended position
      refine ⟨[], ⟨.endOfInput, "", here⟩, ?_, rfl, rfl⟩
      simp only [take, next, bind, Except.bind, take_ended]
      rfl
    | @more _ c rest lexeme words found scanned spelled =>
      obtain ⟨here, next⟩ := next_scanned found position
      have shorter := skipTrivia_length false 0 chars
      rw [← code, found] at shorter
      simp only [List.length_cons] at shorter
      obtain ⟨inner, last, taken, ended, same⟩ :=
        ih spelled (here + lexeme.width) (by rw [List.length_drop]; omega)
      refine ⟨⟨lexeme.kind, lexeme.text, here⟩ :: inner, last, ?_, ended, by rw [← same]; rfl⟩
      simp only [take, next, scanned, Except.map, bind, Except.bind, taken]
      rfl

theorem tokenize_of_spells (spelled : Spells source.toList words) : ∃ inner last,
    tokenize source = .ok (inner ++ [last]) ∧ last.kind = .endOfInput ∧
      inner.map Token.word = words :=
  Supply.take_of_spells spelled 0 (Nat.lt_succ_self _)

end PiecewiseLang
