import PiecewiseLang.Proofs.Token.Lexical

/-! Source texts as spellings of words. A text spells the words that are scanned from it one
after the other, blanks and comments left out; a parser that is given the text passes these
words, and so does one that is given the tokens of the text as a list. -/
namespace PiecewiseLang

open Lexeme

/-- What holds of all ASCII letters and digits holds of each. -/
theorem alphanum_forall {c : Char} (holds : Char → Bool)
    (all : ∀ n < 128, (Char.ofNat n).isAlphanum = true → holds (Char.ofNat n) = true)
    (alphanum : c.isAlphanum = true) : holds c = true := by
  have ascii : c.toNat < 128 := by
    delta Char.isAlphanum Char.isAlpha Char.isUpper Char.isLower Char.isDigit at alphanum
    simp only [Bool.or_eq_true, Bool.and_eq_true, decide_eq_true_eq, ge_iff_le,
      UInt32.le_iff_toNat_le] at alphanum
    change c.val.toNat < 128
    rcases alphanum with (⟨_, high⟩ | ⟨_, high⟩) | ⟨_, high⟩
    all_goals exact Nat.lt_of_le_of_lt high (by decide)
  have this := all c.toNat ascii
  rw [Char.ofNat_toNat] at this
  exact this alphanum

/-- The characters that words and numerals begin with are neither blank nor a comment sign. -/
theorem visible_of_alphanum {c : Char} (alphanum : c.isAlphanum = true) :
    Text.isBlank c = false ∧ c ≠ '#' := by
  have this := alphanum_forall (fun c => !Text.isBlank c && c ≠ '#') (by decide) alphanum
  simpa using this

/-- Whether a character begins blanks or a comment. -/
def isDivider (c : Char) : Bool := Text.isBlank c || c = '#'

theorem not_divider_of_alphanum {c : Char} (alphanum : c.isAlphanum = true) :
    isDivider c = false := by
  simpa [isDivider] using visible_of_alphanum alphanum

/-- A divider continues neither a word nor a numeral. -/
theorem stops_of_divider (divides : isDivider d = true) :
    isWordChar d = false ∧ isNumeralChar d = false ∧ d.isDigit = false := by
  have alphanum : d.isAlphanum = false := by
    refine Bool.eq_false_iff.mpr fun alphanum => ?_
    rw [not_divider_of_alphanum alphanum] at divides
    cases divides
  have digit : d.isDigit = false := by
    rw [Char.isAlphanum, Bool.or_eq_false_iff] at alphanum
    exact alphanum.2
  have line : d ≠ '_' := by rintro rfl; exact absurd divides (by decide)
  have point : d ≠ '.' := by rintro rfl; exact absurd divides (by decide)
  simp [isWordChar, isNumeralChar, alphanum, digit, line, point]

/-- The trivia in front of a text do not depend on where the text stands. -/
theorem skipTrivia_snd (inside : Bool) (position other : Nat) (chars : List Char) :
    (skipTrivia inside position chars).2 = (skipTrivia inside other chars).2 := by
  fun_induction skipTrivia inside position chars generalizing other with
  | case1 inside => cases inside <;> rfl
  | case2 position c rest ih => exact ih _
  | case3 position c rest blank ih => simpa [skipTrivia, blank] using ih _
  | case4 position rest blank ih => simpa [skipTrivia, blank] using ih _
  | case5 position c rest blank notComment => simp [skipTrivia, blank, notComment]

theorem skipTrivia_suffix (inside : Bool) (position : Nat) (chars : List Char) :
    (skipTrivia inside position chars).2 <:+ chars := by
  fun_induction skipTrivia inside position chars with
  | case1 => exact List.suffix_refl _
  | case2 position c rest ih => exact ih.trans (List.suffix_cons c rest)
  | case3 position c rest _ ih => exact ih.trans (List.suffix_cons c rest)
  | case4 position rest _ ih => exact ih.trans (List.suffix_cons '#' rest)
  | case5 => exact List.suffix_refl _

theorem skipTrivia_length (inside : Bool) (position : Nat) (chars : List Char) :
    (skipTrivia inside position chars).2.length ≤ chars.length :=
  (skipTrivia_suffix inside position chars).length_le

/-- A text without the blanks and comments in front of it. -/
def code (chars : List Char) : List Char := (skipTrivia false 0 chars).2

theorem skipTrivia_eq (position : Nat) (chars : List Char) :
    ∃ here, skipTrivia false position chars = (here, code chars) :=
  ⟨_, Prod.ext rfl (skipTrivia_snd false position 0 chars)⟩

theorem code_blank (blank : Text.isBlank c = true) : code (c :: rest) = code rest := by
  rw [code, skipTrivia, if_pos blank]
  exact skipTrivia_snd ..

theorem code_cons (visible : Text.isBlank c = false) (notComment : c ≠ '#') :
    code (c :: rest) = c :: rest := by
  rw [code, skipTrivia, if_neg (Bool.eq_false_iff.mp visible), if_neg notComment]

/-- The words a text is made of, in order. -/
inductive Spells : List Char → List Word → Prop where
  | done : code chars = [] → Spells chars []
  | more : code chars = c :: rest → scan c rest = .ok lexeme →
      Spells (rest.drop (lexeme.width - 1)) words → Spells chars (lexeme.toWord :: words)

namespace Spells

theorem blank (blank : Text.isBlank c = true) (spelled : Spells rest words) :
    Spells (c :: rest) words := by
  cases spelled with
  | done ended => exact .done ((code_blank blank).trans ended)
  | more found scanned spelled => exact .more ((code_blank blank).trans found) scanned spelled

theorem lexical (spelled : Spells chars words) : ∀ w ∈ words, w.Lexical := by
  induction spelled with
  | done => simp
  | more _ scanned _ ih =>
    intro w member
    rcases List.mem_cons.mp member with rfl | member
    · exact scan_lexical scanned
    · exact ih w member

theorem unique (spelled : Spells chars words) (spelled' : Spells chars words') :
    words = words' := by
  induction spelled generalizing words' with
  | done ended =>
    cases spelled' with
    | done => rfl
    | more found => rw [ended] at found; cases found
  | more found scanned _ ih =>
    cases spelled' with
    | done ended => rw [ended] at found; cases found
    | more found' scanned' spelled' =>
      cases found.symm.trans found'
      cases scanned.symm.trans scanned'
      rw [ih spelled']

theorem length_le (spelled : Spells chars words) : words.length ≤ chars.length := by
  induction spelled with
  | done => simp
  | @more chars c rest lexeme words found _ _ ih =>
    have shorter := skipTrivia_length false 0 chars
    rw [← code, found] at shorter
    simp only [List.length_cons, List.length_drop] at shorter ih ⊢
    omega

end Spells

namespace Supply

theorem next_ended (ended : code chars = []) (position : Nat) : ∃ here : Nat,
    next (.source position chars false) =
      .ok (some (⟨.endOfInput, "", here⟩, .source here [] true)) := by
  obtain ⟨here, trivia⟩ := skipTrivia_eq position chars
  exact ⟨here, by simp only [next, trivia, ended, Bool.false_eq_true, if_false]⟩

theorem next_scanned (found : code chars = c :: rest) (position : Nat) : ∃ here : Nat,
    next (.source position chars false) = (scan c rest).map fun lexeme =>
      some (⟨lexeme.kind, lexeme.text, here⟩,
        .source (here + lexeme.width) (rest.drop (lexeme.width - 1)) false) := by
  obtain ⟨here, trivia⟩ := skipTrivia_eq position chars
  refine ⟨here, ?_⟩
  simp only [next, trivia, found]
  cases scan c rest <;> rfl

theorem next_cases (drawn : next (.source position chars false) = .ok out) :
    (code chars = [] ∧ ∃ here : Nat,
      out = some (⟨.endOfInput, "", here⟩, .source here [] true)) ∨
    ∃ c rest lexeme, ∃ here : Nat, code chars = c :: rest ∧ scan c rest = .ok lexeme ∧
      out = some (⟨lexeme.kind, lexeme.text, here⟩,
        .source (here + lexeme.width) (rest.drop (lexeme.width - 1)) false) := by
  cases found : code chars with
  | nil =>
    obtain ⟨here, ended⟩ := next_ended found position
    exact .inl ⟨rfl, here, Except.ok.inj (drawn.symm.trans ended)⟩
  | cons c rest =>
    obtain ⟨here, next⟩ := next_scanned found position
    rw [next] at drawn
    cases scanned : scan c rest with
    | error fault => rw [scanned] at drawn; cases drawn
    | ok lexeme =>
      rw [scanned] at drawn
      exact .inr ⟨c, rest, lexeme, here, rfl, scanned, (Except.ok.inj drawn).symm⟩

/-- The tokens of a text are those of its words and one more, which ends it. -/
theorem take_source (taken : take count (.source position chars false) = .ok tokens)
    (enough : chars.length < count) : ∃ inner last, tokens = inner ++ [last] ∧
      last.kind = .endOfInput ∧ Spells chars (inner.map Token.word) := by
  induction count generalizing position chars tokens with
  | zero => omega
  | succ count ih =>
    obtain ⟨out, drawn, taken⟩ := bind_eq_ok.mp taken
    rcases next_cases drawn with ⟨ended, here, rfl⟩ | ⟨c, rest, lexeme, here, found, scanned, rfl⟩
    · obtain ⟨none, more, rest⟩ := bind_eq_ok.mp taken
      have nothing : none = [] := by
        cases count with
        | zero => cases more; rfl
        | succ count =>
          obtain ⟨_, again, stopped⟩ := bind_eq_ok.mp more
          cases again
          cases stopped
          rfl
      cases rest
      exact ⟨[], _, by rw [nothing]; rfl, rfl, .done ended⟩
    · obtain ⟨after, more, whole⟩ := bind_eq_ok.mp taken
      cases whole
      have shorter := skipTrivia_length false 0 chars
      rw [← code, found] at shorter
      simp only [List.length_cons] at shorter
      obtain ⟨inner, last, rfl, ended, spelled⟩ :=
        ih more (by rw [List.length_drop]; omega)
      exact ⟨_ :: inner, last, rfl, ended, .more found scanned spelled⟩

end Supply

theorem tokenize_spells (scanned : tokenize source = .ok tokens) : ∃ inner last,
    tokens = inner ++ [last] ∧ last.kind = .endOfInput ∧
      Spells source.toList (inner.map Token.word) :=
  Supply.take_source scanned (Nat.lt_succ_self _)

namespace Cursor

/-- A cursor drawn from a text passes the words of the text and then shows its end. -/
theorem passes_of_spells (spelled : Spells chars words) (position : Nat) (before : Int) :
    ∃ c d, draw before (.source position chars false) = .ok c ∧ c.Passes words d ∧
      d.current.kind = .endOfInput := by
  induction spelled generalizing position before with
  | done ended =>
    obtain ⟨here, next⟩ := Supply.next_ended ended position
    let c : Cursor := ⟨⟨.endOfInput, "", here⟩, .source here [] true⟩
    exact ⟨c, c, by rw [draw, next], .done, rfl⟩
  | @more chars first rest lexeme words found scanned spelled ih =>
    obtain ⟨here, next⟩ := Supply.next_scanned found position
    rw [scanned] at next
    let c : Cursor := ⟨⟨lexeme.kind, lexeme.text, here⟩,
      .source (here + lexeme.width) (rest.drop (lexeme.width - 1)) false⟩
    obtain ⟨m, d, drawn, passed, ended⟩ := ih (here + lexeme.width) here
    have inside : c.current.kind ≠ .endOfInput := (scan_lexical scanned).inside
    have advanced : c.advance = .ok m := by rw [advance, if_neg inside]; exact drawn
    exact ⟨c, d, by rw [draw, next]; rfl, .step inside advanced passed, ended⟩

theorem draw_cases (drawn : draw before (.source position chars false) = .ok d) :
    (code chars = [] ∧ ∃ here : Nat, d = ⟨⟨.endOfInput, "", here⟩, .source here [] true⟩) ∨
    ∃ c rest lexeme, ∃ here : Nat, code chars = c :: rest ∧ scan c rest = .ok lexeme ∧
      d = ⟨⟨lexeme.kind, lexeme.text, here⟩,
        .source (here + lexeme.width) (rest.drop (lexeme.width - 1)) false⟩ := by
  unfold draw at drawn
  split at drawn
  case h_1 => cases drawn
  case h_2 next =>
    rcases Supply.next_cases next with ⟨_, _, impossible⟩ | ⟨_, _, _, _, _, _, impossible⟩ <;>
      cases impossible
  case h_3 t rest next =>
    cases drawn
    rcases Supply.next_cases next with
      ⟨ended, here, same⟩ | ⟨c, more, lexeme, here, found, scanned, same⟩
    · cases same
      exact .inl ⟨ended, here, rfl⟩
    · cases same
      exact .inr ⟨c, more, lexeme, here, found, scanned, rfl⟩

/-- What a cursor drawn from a text passes up to the end of input are the words of the text. -/
theorem spells_of_passes (passed : c.Passes words d) (ended : d.current.kind = .endOfInput)
    (drawn : draw before (.source position chars false) = .ok c) : Spells chars words := by
  induction passed generalizing position before chars with
  | done =>
    rcases draw_cases drawn with ⟨empty, here, rfl⟩ | ⟨_, _, lexeme, here, _, scanned, rfl⟩
    · exact .done empty
    · exact absurd ended (scan_lexical scanned).inside
  | step inside advanced passed ih =>
    rcases draw_cases drawn with ⟨empty, here, rfl⟩ | ⟨_, _, lexeme, here, found, scanned, rfl⟩
    · exact absurd rfl inside
    · rw [advance, if_neg inside] at advanced
      exact .more found scanned (ih ended advanced)

end Cursor

end PiecewiseLang
