import PiecewiseLang.Proofs.Token.Lines

/-! The tokens of a text cover it. Each takes a stretch of the text from its position on, the
stretches do not meet, and between them stand blanks and comments only. So nothing of a text is
lost in its tokens, and nothing is in them that does not stand in the text. -/
namespace PiecewiseLang

open Lexeme (scan spelling)

/-- Blanks, and comments that run to the end of their line. Behind the last token the end of the
text may take the place of the last line feed. -/
inductive Trivia (last : Bool) : List Char → Prop where
  | none : Trivia last []
  | blank : Text.isBlank c = true → Trivia last rest → Trivia last (c :: rest)
  | comment : '\n' ∉ text → Trivia last rest → Trivia last ('#' :: (text ++ '\n' :: rest))
  | unended : last = true → '\n' ∉ text → Trivia last ('#' :: text)

/-- Trivia that were begun with `before` go on in a text up to where the result says. -/
def Skips (before : List Char) (position : Nat) (chars : List Char) (result : Nat × List Char) :
    Prop :=
  ∃ gap, chars = gap ++ result.2 ∧ result.1 = position + gap.length ∧
    Trivia result.2.isEmpty (before ++ gap)

theorem Skips.step (skipped : Skips before' (position + 1) rest result)
    (begun : ∀ last gap, Trivia last (before' ++ gap) → Trivia last (before ++ c :: gap)) :
    Skips before position (c :: rest) result := by
  obtain ⟨gap, whole, here, trivia⟩ := skipped
  refine ⟨c :: gap, congrArg _ whole, ?_, begun _ _ trivia⟩
  rw [here, List.length_cons]
  omega

/-- Where the text begins inside a comment, the comment has begun before it. -/
theorem skipTrivia_skips (inside : Bool) (position : Nat) (chars before : List Char)
    (begun : if inside then ∃ text, '\n' ∉ text ∧ before = '#' :: text else before = []) :
    Skips before position chars (skipTrivia inside position chars) := by
  fun_induction skipTrivia inside position chars generalizing before with
  | case1 inside position =>
    refine ⟨[], rfl, rfl, ?_⟩
    rw [List.append_nil]
    cases inside with
    | false =>
      obtain rfl : before = [] := begun
      exact .none
    | true =>
      obtain ⟨text, oneLine, rfl⟩ := begun
      exact .unended rfl oneLine
  | case2 position c rest ih =>
    obtain ⟨text, oneLine, rfl⟩ := begun
    by_cases feed : c = '\n'
    · subst feed
      exact (ih [] rfl).step fun _ _ trivia => .comment oneLine trivia
    · refine (ih ('#' :: (text ++ [c])) ?_).step fun _ _ trivia => by simpa using trivia
      rw [if_pos (by simpa using feed)]
      exact ⟨_, by simp [oneLine, Ne.symm feed], rfl⟩
  | case3 position c rest blank ih =>
    obtain rfl : before = [] := begun
    exact (ih [] rfl).step fun _ _ trivia => .blank blank trivia
  | case4 position rest blank ih =>
    obtain rfl : before = [] := begun
    exact (ih ['#'] ⟨[], by simp, rfl⟩).step fun _ _ trivia => trivia
  | case5 position c rest blank notComment =>
    obtain rfl : before = [] := begun
    exact ⟨[], rfl, rfl, .none⟩

/-- Tokens laid over a text that begins at a position of its source. Each token takes a slice,
the end of input takes none, and only trivia are left. -/
inductive Covers : Nat → List Char → List (List Char) → List Token → Prop where
  | ended : Trivia true gap →
      Covers position gap [] [⟨.endOfInput, "", (position + gap.length : Nat)⟩]
  | token {t : Token} : Trivia false gap → slice ≠ [] → t.kind ≠ .endOfInput →
      t.position = (position + gap.length : Nat) → t.text.toList = spelling slice →
      Covers (position + gap.length + slice.length) rest slices tokens →
      Covers position (gap ++ (slice ++ rest)) (slice :: slices) (t :: tokens)

namespace Supply

/-- The next token of a text takes a slice behind trivia, or trivia are all that is left. -/
theorem next_slice (drawn : next (.source position chars false) = .ok out) :
    (Trivia true chars ∧ out = some (⟨.endOfInput, "", (position + chars.length : Nat)⟩,
      .source (position + chars.length) [] true)) ∨
    ∃ gap slice rest, ∃ t : Token, chars = gap ++ (slice ++ rest) ∧ Trivia false gap ∧
      slice ≠ [] ∧ t.kind ≠ .endOfInput ∧ t.position = (position + gap.length : Nat) ∧
      t.text.toList = spelling slice ∧
      out = some (t, .source (position + gap.length + slice.length) rest false) := by
  obtain ⟨gap, whole, here, trivia⟩ := skipTrivia_skips false position chars [] rfl
  simp only [next] at drawn
  split at drawn
  case h_1 stop found =>
    rw [found] at whole here trivia
    obtain rfl : chars = gap := whole.trans (List.append_nil gap)
    obtain rfl : stop = position + chars.length := here
    exact .inl ⟨trivia, (Except.ok.inj drawn).symm⟩
  case h_2 stop c more found =>
    rw [found] at whole here trivia
    obtain rfl : stop = position + gap.length := here
    obtain ⟨l, scanned, made⟩ := bind_eq_ok.mp drawn
    obtain ⟨slice, some, ⟨rest, split⟩, width, text⟩ := Lexeme.scan_begins scanned
    cases slice with
    | nil => exact absurd rfl some
    | cons first slice =>
      cases split
      refine .inr ⟨gap, _, rest, ⟨l.kind, l.text, _⟩, whole, trivia, some,
        (Lexeme.scan_lexical scanned).inside, rfl, text, ?_⟩
      rw [← Except.ok.inj made, width]
      simp

theorem covers_of_take (taken : take count (.source position chars false) = .ok tokens)
    (enough : chars.length < count) : ∃ slices, Covers position chars slices tokens := by
  induction count generalizing position chars tokens with
  | zero => omega
  | succ count ih =>
    obtain ⟨out, drawn, taken⟩ := bind_eq_ok.mp taken
    rcases next_slice drawn with
      ⟨trivia, rfl⟩ | ⟨gap, slice, rest, t, rfl, trivia, some, inside, here, text, rfl⟩
    · obtain ⟨none, more, whole⟩ := bind_eq_ok.mp taken
      cases (take_ended ..).symm.trans more
      cases whole
      exact ⟨[], .ended trivia⟩
    · obtain ⟨after, more, whole⟩ := bind_eq_ok.mp taken
      cases whole
      have longer := List.length_pos_iff.mpr some
      simp only [List.length_append] at enough
      obtain ⟨slices, covers⟩ := ih more (by omega)
      exact ⟨slice :: slices, .token trivia some inside here text covers⟩

end Supply

namespace Covers

/-- The end of input is the last token, stands at the end of the text, and occurs once. -/
theorem ends (covers : Covers position chars slices tokens) : ∃ inner,
    tokens = inner ++ [⟨.endOfInput, "", (position + chars.length : Nat)⟩] ∧
      ∀ t ∈ inner, t.kind ≠ .endOfInput := by
  induction covers with
  | ended => exact ⟨[], rfl, nofun⟩
  | @token gap slice position rest slices tokens t _ _ inside _ _ _ ih =>
    obtain ⟨inner, rfl, others⟩ := ih
    refine ⟨t :: inner, ?_, List.forall_mem_cons.mpr ⟨inside, others⟩⟩
    simp [Nat.add_assoc]

theorem position_le (covers : Covers position chars slices tokens) :
    ∀ t ∈ tokens, (position : Int) ≤ t.position := by
  induction covers with
  | ended =>
    refine List.forall_mem_singleton.mpr ?_
    exact Int.ofNat_le.mpr (Nat.le_add_right ..)
  | token _ _ _ here _ _ ih =>
    refine List.forall_mem_cons.mpr ⟨by rw [here]; omega, fun t member => ?_⟩
    have later := ih t member
    omega

theorem ascending (covers : Covers position chars slices tokens) :
    tokens.Pairwise (·.position < ·.position) := by
  induction covers with
  | ended => exact List.pairwise_singleton ..
  | token _ some _ here _ covers ih =>
    refine List.pairwise_cons.mpr ⟨fun t member => ?_, ih⟩
    have later := covers.position_le t member
    have longer := List.length_pos_iff.mpr some
    omega

end Covers

/-- A text that can be divided into tokens is covered by them. The end of input occurs once,
behind all other tokens and at the end of the text. -/
theorem tokens_cover_source (scanned : tokenize source = .ok tokens) :
    ∃ inner slices, tokens = inner ++ [⟨.endOfInput, "", source.length⟩] ∧
      (∀ t ∈ inner, t.kind ≠ .endOfInput) ∧ tokens.Pairwise (·.position < ·.position) ∧
      Covers 0 source.toList slices tokens := by
  obtain ⟨slices, covers⟩ := Supply.covers_of_take scanned (Nat.lt_succ_self _)
  obtain ⟨inner, whole, inside⟩ := covers.ends
  rw [Nat.zero_add, String.length_toList] at whole
  exact ⟨inner, slices, whole, inside, covers.ascending, covers⟩

/-- Digits glued to a word, an alias inside an illegal mark, and one that stands for a token. -/
def gluedSample : List Token :=
  [⟨.name, "x", 0⟩, ⟨.illegal, "=/≤", 2⟩, ⟨.illegal, "12", 5⟩, ⟨.name, "ab", 7⟩, ⟨.inWord, "in", 13⟩,
    ⟨.real, ".5", 14⟩, ⟨.endOfInput, "", 18⟩]

theorem tokens_cover_source_sample :
    tokenize "x =/≤12ab# ∈\n∈.5 #" = .ok gluedSample ∧
    ∃ inner slices, gluedSample = inner ++ [⟨.endOfInput, "", 18⟩] ∧
      (∀ t ∈ inner, t.kind ≠ .endOfInput) ∧ gluedSample.Pairwise (·.position < ·.position) ∧
      Covers 0 "x =/≤12ab# ∈\n∈.5 #".toList slices gluedSample := by
  have scanned : tokenize "x =/≤12ab# ∈\n∈.5 #" = .ok gluedSample := by decide +kernel
  exact ⟨scanned, tokens_cover_source scanned⟩

end PiecewiseLang
