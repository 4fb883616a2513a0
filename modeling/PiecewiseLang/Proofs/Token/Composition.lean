import PiecewiseLang.Proofs.Token.Covering

/-! Texts that are joined by a line feed. A line feed ends comments and divides tokens, so the
tokens of the second text follow those of the first, moved on. The one thing that reaches over the
line feed is a mark of three characters that the first text ends in the middle of: it takes the line
feed for its third. -/
namespace PiecewiseLang

open Lexeme (scan Unfinished scan_finished scan_unfinished scan_width scan_begins)

namespace Token

/-- The token in a text that has so many more characters in front. -/
def shift (count : Nat) (t : Token) : Token := { t with position := t.position + count }

/-- The token is two characters that a mark of three begins with, right before where a text ends. -/
def UnfinishedAt (stop : Int) (t : Token) : Prop :=
  t.kind = .illegal ∧ t.text ∈ ["=/", "+/", "-/", "/_"] ∧ t.position + 2 = stop

end Token

theorem skipTrivia_shift (inside : Bool) (position count : Nat) (chars : List Char) :
    skipTrivia inside (position + count) chars =
      ((skipTrivia inside position chars).1 + count, (skipTrivia inside position chars).2) := by
  fun_induction skipTrivia inside position chars with
  | case1 inside => cases inside <;> rfl
  | case2 position c rest ih => rw [skipTrivia, Nat.add_right_comm, ih]
  | case3 position c rest blank ih => rw [skipTrivia, if_pos blank, Nat.add_right_comm, ih]
  | case4 position rest blank ih =>
    rw [skipTrivia, if_neg blank, if_pos rfl, Nat.add_right_comm, ih]
  | case5 position c rest blank notComment => rw [skipTrivia, if_neg blank, if_neg notComment]

/-- The tokens of a text that begins at a position of its source, the end of input being the
last. -/
inductive Lexes : Nat → List Char → List Token → Prop where
  | ended {here : Nat} : skipTrivia false position chars = (here, []) →
      Lexes position chars [⟨.endOfInput, "", here⟩]
  | token {here : Nat} : skipTrivia false position chars = (here, c :: rest) →
      scan c rest = .ok lexeme →
      Lexes (here + lexeme.width) (rest.drop (lexeme.width - 1)) tokens →
      Lexes position chars (⟨lexeme.kind, lexeme.text, here⟩ :: tokens)

namespace Supply

theorem take_scanned {here : Nat} (found : skipTrivia false position chars = (here, c :: rest))
    (count : Nat) : take (count + 1) (.source position chars false) = (do
      let lexeme ← scan c rest
      return ⟨lexeme.kind, lexeme.text, here⟩ ::
        (← take count (.source (here + lexeme.width) (rest.drop (lexeme.width - 1)) false))) := by
  simp only [take, next, found, bind_assoc, pure_bind]

theorem take_ends {here : Nat} (found : skipTrivia false position chars = (here, []))
    (count : Nat) : take (count + 1) (.source position chars false) =
      .ok [⟨.endOfInput, "", here⟩] := by
  simp only [take, next, found, Bool.false_eq_true, if_false, bind, Except.bind, take_ended]
  rfl

/-- What is left of a text behind its first token is shorter. -/
theorem rest_length {here : Nat} (found : skipTrivia false position chars = (here, c :: rest))
    (width : Nat) : (rest.drop (width - 1)).length < chars.length := by
  have shorter := skipTrivia_length false position chars
  rw [found, List.length_cons] at shorter
  rw [List.length_drop]
  omega

theorem take_iff_lexes (enough : chars.length < count) :
    take count (.source position chars false) = .ok tokens ↔ Lexes position chars tokens := by
  induction count generalizing position chars tokens with
  | zero => omega
  | succ count ih =>
    obtain ⟨here, trivia⟩ := skipTrivia_eq position chars
    cases found : code chars with
    | nil =>
      rw [found] at trivia
      rw [take_ends trivia]
      constructor
      · rintro ⟨⟩
        exact .ended trivia
      · rintro (trivia' | trivia')
        · cases trivia.symm.trans trivia'
          rfl
        · cases trivia.symm.trans trivia'
    | cons c rest =>
      rw [found] at trivia
      have shorter := rest_length trivia
      rw [take_scanned trivia]
      constructor
      · intro taken
        obtain ⟨lexeme, scanned, taken⟩ := bind_eq_ok.mp taken
        obtain ⟨after, others, whole⟩ := bind_eq_ok.mp taken
        cases whole
        refine .token trivia scanned ((ih ?_).mp others)
        exact Nat.lt_of_lt_of_le (shorter _) (Nat.le_of_lt_succ enough)
      · rintro (trivia' | ⟨trivia', scanned, lexed⟩)
        · cases trivia.symm.trans trivia'
        · cases trivia.symm.trans trivia'
          rw [scanned]
          refine bind_eq_ok.mpr ⟨_, rfl, bind_eq_ok.mpr ⟨_, (ih ?_).mpr lexed, rfl⟩⟩
          exact Nat.lt_of_lt_of_le (shorter _) (Nat.le_of_lt_succ enough)

end Supply

theorem tokenize_iff_lexes : tokenize source = .ok tokens ↔ Lexes 0 source.toList tokens :=
  Supply.take_iff_lexes (Nat.lt_succ_self _)

theorem unfinished_text : ∀ pair ∈ Lexeme.triples.map Prod.fst,
    String.ofList [pair.1, pair.2] ∈ ["=/", "+/", "-/", "/_"] := by
  decide

namespace Lexes

theorem shift (lexed : Lexes position chars tokens) (count : Nat) :
    Lexes (position + count) chars (tokens.map (·.shift count)) := by
  induction lexed with
  | ended trivia =>
    refine .ended ?_
    rw [skipTrivia_shift, trivia]
  | @token position chars c rest lexeme tokens here trivia scanned _ ih =>
    rw [Nat.add_right_comm] at ih
    refine .token ?_ scanned ih
    rw [skipTrivia_shift, trivia]

theorem tokens_ne_nil (lexed : Lexes position chars tokens) : tokens ≠ [] := by
  cases lexed <;> exact List.cons_ne_nil _ _

theorem of_nil (lexed : Lexes position [] tokens) : tokens.dropLast = [] := by
  cases lexed with
  | ended => rfl
  | token trivia => cases trivia

/-- The tokens of a text that goes on behind a line feed. -/
theorem append_lineFeed (lexed : Lexes position first tokens)
    (finished : ∀ t ∈ tokens.dropLast.getLast?, ¬t.UnfinishedAt (position + first.length : Nat))
    (lexed' : Lexes (position + first.length + 1) rest tokens') :
    Lexes position (first ++ '\n' :: rest) (tokens.dropLast ++ tokens') := by
  induction lexed with
  | @ended position first here trivia =>
    obtain ⟨gap, whole, stop, -⟩ := skipTrivia_skips false position first [] rfl
    rw [trivia] at whole stop
    obtain rfl : first = gap := whole.trans (List.append_nil gap)
    obtain rfl : here = position + first.length := stop
    have joined := skipTrivia_lineFeed false position first rest
    rw [trivia] at joined
    cases lexed' with
    | ended trivia' => exact .ended (joined.trans trivia')
    | token trivia' scanned lexed' => exact .token (joined.trans trivia') scanned lexed'
  | @token position first c more lexeme tokens here trivia scanned lexed ih =>
    obtain ⟨gap, whole, start, -⟩ := skipTrivia_skips false position first [] rfl
    rw [trivia] at whole start
    obtain rfl : first = gap ++ c :: more := whole
    obtain rfl : here = position + gap.length := start
    have joined := skipTrivia_lineFeed false position (gap ++ c :: more) rest
    rw [trivia] at joined
    rw [List.dropLast_cons_of_ne_nil lexed.tokens_ne_nil] at finished ⊢
    by_cases ends : Unfinished c more
    · obtain ⟨e, rfl, unfinished⟩ := ends
      obtain ⟨alone, -⟩ := scan_unfinished unfinished
      cases scanned.symm.trans alone
      have last : tokens.dropLast = [] := lexed.of_nil
      rw [last] at finished
      refine absurd ⟨rfl, unfinished_text _ unfinished, ?_⟩ (finished _ rfl)
      change ((position + gap.length : Nat) : Int) + 2 = _
      simp only [List.length_append, List.length_cons, List.length_nil]
      omega
    · have same := scan_finished ends lineFeed_divides rest
      have short := scan_width scanned
      have some : 1 ≤ lexeme.width := by
        obtain ⟨slice, nonempty, -, width, -⟩ := scan_begins scanned
        rw [width]
        exact List.length_pos_iff.mpr nonempty
      have stop : position + (gap ++ c :: more).length =
          position + gap.length + lexeme.width + (more.drop (lexeme.width - 1)).length := by
        rw [List.length_append, List.length_cons, List.length_drop]
        omega
      rw [stop] at finished lexed'
      refine .token joined (same.trans scanned) ?_
      rw [List.drop_append_of_le_length (by omega)]
      refine ih (fun t last => finished t ?_) lexed'
      rw [List.getLast?_cons, Option.mem_def.mp last]
      rfl

end Lexes

/-- The tokens of two texts that are joined by a line feed are those of the first, without the end
of input behind them, and those of the second, moved on by the length of the first and the line
feed. It takes that the first text does not end in the middle of a mark of three characters. -/
theorem lexing_composes_at_lineFeed (scanned : tokenize source = .ok tokens)
    (scanned' : tokenize source' = .ok tokens')
    (finished : ∀ t ∈ tokens.dropLast.getLast?, ¬t.UnfinishedAt source.length) :
    tokenize (source ++ "\n" ++ source') =
      .ok (tokens.dropLast ++ tokens'.map (·.shift (source.length + 1))) := by
  rw [tokenize_iff_lexes] at scanned scanned' ⊢
  have chars : (source ++ "\n" ++ source').toList = source.toList ++ '\n' :: source'.toList := by
    rw [String.toList_append, String.toList_append, List.append_assoc]
    rfl
  rw [← String.length_toList] at finished ⊢
  rw [chars]
  refine scanned.append_lineFeed (by rwa [Nat.zero_add]) ?_
  rw [Nat.add_assoc]
  exact scanned'.shift _

/-- A sign that could begin another mark before a text that goes on with it, and one that misses
its third character at the end. -/
theorem lexing_composes_at_lineFeed_sample :
    tokenize "x # ∈\n12 <" = .ok [⟨.name, "x", 0⟩, ⟨.integer, "12", 6⟩, ⟨.less, "<", 9⟩,
      ⟨.endOfInput, "", 10⟩] ∧
    tokenize "=3a =/" = .ok [⟨.assign, "=", 0⟩, ⟨.illegal, "3", 1⟩, ⟨.name, "a", 2⟩,
      ⟨.illegal, "=/", 4⟩, ⟨.endOfInput, "", 6⟩] ∧
    tokenize "x # ∈\n12 <\n=3a =/" = .ok [⟨.name, "x", 0⟩, ⟨.integer, "12", 6⟩, ⟨.less, "<", 9⟩,
      ⟨.assign, "=", 11⟩, ⟨.illegal, "3", 12⟩, ⟨.name, "a", 13⟩, ⟨.illegal, "=/", 15⟩,
      ⟨.endOfInput, "", 17⟩] := by
  have first : tokenize "x # ∈\n12 <" = .ok [⟨.name, "x", 0⟩, ⟨.integer, "12", 6⟩,
      ⟨.less, "<", 9⟩, ⟨.endOfInput, "", 10⟩] := by decide +kernel
  have second : tokenize "=3a =/" = .ok [⟨.assign, "=", 0⟩, ⟨.illegal, "3", 1⟩, ⟨.name, "a", 2⟩,
      ⟨.illegal, "=/", 4⟩, ⟨.endOfInput, "", 6⟩] := by decide +kernel
  have joined := lexing_composes_at_lineFeed first second fun t last => by
    obtain rfl : t = ⟨.less, "<", 9⟩ := (Option.some.inj last).symm
    rintro ⟨legal, -⟩
    cases legal
  have whole : "x # ∈\n12 <" ++ "\n" ++ "=3a =/" = "x # ∈\n12 <\n=3a =/" := by decide +kernel
  rw [whole] at joined
  exact ⟨first, second, joined⟩

end PiecewiseLang
