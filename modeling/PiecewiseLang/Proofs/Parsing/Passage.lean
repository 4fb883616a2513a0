import PiecewiseLang.Grammar.Program

/-! What the steps of a parser do to its cursor. A successful step passes some tokens and
stops before another one; the tokens passed are recorded without their positions, and the
supply behind the cursor may be a list of tokens or a source text. -/
namespace PiecewiseLang

/-- A sequence succeeds exactly when its steps do, one after the other. -/
theorem bind_eq_ok {x : Except ε α} {f : α → Except ε β} :
    x >>= f = .ok b ↔ ∃ a, x = .ok a ∧ f a = .ok b := by
  cases x <;> simp [bind, Except.bind]

/-- A sequence fails where its first step does, or where the next does. -/
theorem bind_eq_error {x : Except ε α} {next : α → Except ε β} :
    x >>= next = .error e ↔ x = .error e ∨ ∃ a, x = .ok a ∧ next a = .error e := by
  cases x <;> simp [bind, Except.bind]

/-- A token without its position. -/
structure Word where
  kind : TokenKind
  text : String
deriving DecidableEq, Repr

def Token.word (t : Token) : Word := ⟨t.kind, t.text⟩

@[simp] theorem Token.word_kind (t : Token) : t.word.kind = t.kind := rfl

@[simp] theorem Token.word_text (t : Token) : t.word.text = t.text := rfl

/-- A token of the word, at no place in particular. -/
def Word.token (w : Word) : Token := ⟨w.kind, w.text, 0⟩

@[simp] theorem Word.map_word_token (words : List Word) :
    (words.map Word.token).map Token.word = words := by
  rw [List.map_map]
  exact List.map_id words

/-- The kind of the first of some words, or of what follows them where there are none. -/
def headKind (words : List Word) (next : TokenKind) : TokenKind :=
  match words with
  | [] => next
  | w :: _ => w.kind

@[simp] theorem headKind_nil (next : TokenKind) : headKind [] next = next := rfl

@[simp] theorem headKind_cons (w : Word) (words : List Word) (next : TokenKind) :
    headKind (w :: words) next = w.kind := rfl

theorem headKind_append (first second : List Word) (next : TokenKind) :
    headKind (first ++ second) next = headKind first (headKind second next) := by
  cases first <;> rfl

namespace Cursor

/-- The cursor `d` is reached from `c` by passing the given words, none of which is the end
of input. -/
inductive Passes : Cursor → List Word → Cursor → Prop where
  | done : Passes c [] c
  | step : c.current.kind ≠ .endOfInput → c.advance = .ok d → Passes d words e →
      Passes c (c.current.word :: words) e

namespace Passes

theorem append (first : Passes c words d) (second : Passes d more e) :
    Passes c (words ++ more) e := by
  induction first with
  | done => exact second
  | step inside advanced _ ih => exact .step inside advanced (ih second)

theorem nil_iff : Passes c [] d ↔ c = d := by
  constructor
  · intro h; cases h; rfl
  · rintro rfl; exact .done

theorem cons_iff : Passes c (w :: words) e ↔ c.current.word = w ∧
    c.current.kind ≠ .endOfInput ∧ ∃ d, c.advance = .ok d ∧ Passes d words e := by
  constructor
  · intro h
    cases h with
    | step inside advanced rest => exact ⟨rfl, inside, _, advanced, rest⟩
  · rintro ⟨rfl, inside, d, advanced, rest⟩
    exact .step inside advanced rest

theorem append_iff : Passes c (words ++ more) e ↔
    ∃ d, Passes c words d ∧ Passes d more e := by
  constructor
  · intro h
    induction words generalizing c with
    | nil => exact ⟨c, .done, h⟩
    | cons w words ih =>
      obtain ⟨rfl, inside, d, advanced, rest⟩ := cons_iff.mp h
      obtain ⟨m, first, second⟩ := ih rest
      exact ⟨m, .step inside advanced first, second⟩
  · rintro ⟨d, first, second⟩
    exact first.append second

/-- The token in view is the first one passed, if any is. -/
theorem current_kind (h : Passes c words d) : c.current.kind = headKind words d.current.kind := by
  cases h <;> rfl

/-- A cursor that passes a word is not at the end of input. -/
theorem inside (h : Passes c words d) (some : 0 < words.length) : c.current.kind ≠ .endOfInput := by
  cases h with
  | done => simp at some
  | step inside _ _ => exact inside

theorem inside_all (passed : Passes c words d) : ∀ w ∈ words, w.kind ≠ .endOfInput := by
  induction passed with
  | done => exact nofun
  | step inside _ _ ih =>
    intro w member
    rcases List.mem_cons.mp member with rfl | member
    · exact inside
    · exact ih w member

/-- What is passed up to the end of input does not depend on how one gets there. -/
theorem unique (first : Passes c words d) (second : Passes c more e)
    (ended : d.current.kind = .endOfInput) (ended' : e.current.kind = .endOfInput) :
    words = more := by
  induction first generalizing more with
  | done =>
    cases second with
    | done => rfl
    | step inside _ _ => exact absurd ended inside
  | step inside advanced _ ih =>
    cases second with
    | done => exact absurd ended' inside
    | step _ again rest =>
      cases Except.ok.inj (again.symm.trans advanced)
      rw [ih rest ended]

end Passes

end Cursor

namespace Parser

/-- The parser succeeds at the cursor `c` with the result `a` and leaves the cursor at `d`. -/
def Yields (p : Parser α) (c : Cursor) (a : α) (d : Cursor) : Prop := p.run c = .ok (a, d)

@[simp] theorem yields_pure : Yields (pure a) c b d ↔ a = b ∧ c = d := by
  change Except.ok (a, c) = Except.ok (b, d) ↔ _
  simp

@[simp] theorem yields_bind {p : Parser α} {f : α → Parser β} :
    Yields (p >>= f) c b e ↔ ∃ a d, Yields p c a d ∧ Yields (f a) d b e := by
  change Except.bind (p.run c) (fun result => (f result.1).run result.2) = .ok (b, e) ↔ _
  cases ran : p.run c with
  | error failure => simp [Yields, ran, Except.bind]
  | ok result =>
    obtain ⟨a, d⟩ := result
    simp [Yields, ran, Except.bind, and_assoc]

@[simp] theorem yields_map {p : Parser α} {f : α → β} :
    Yields (f <$> p) c b d ↔ ∃ a, Yields p c a d ∧ f a = b := by
  rw [map_eq_pure_bind, yields_bind]
  simp [and_comm, and_assoc]

@[simp] theorem not_yields_throw {failure : ParseFailure} :
    ¬ Yields (throw failure : Parser α) c a d := nofun

@[simp] theorem not_yields_fail : ¬ Yields (fail cause position) c a d := not_yields_throw

@[simp] theorem not_yields_tooDeep : ¬ Yields tooDeep c a d := nofun

@[simp] theorem yields_peek : Yields peek c t d ↔ c.current = t ∧ c = d := by
  change Except.ok (c.current, c) = Except.ok (t, d) ↔ _
  simp

theorem yields_peek_bind {f : Token → Parser α} :
    Yields (peek >>= f) c a d ↔ Yields (f c.current) c a d := by
  rw [yields_bind]
  constructor
  · rintro ⟨_, _, peeked, run⟩
    obtain ⟨rfl, rfl⟩ := yields_peek.mp peeked
    exact run
  · intro run
    exact ⟨_, c, yields_peek.mpr ⟨rfl, rfl⟩, run⟩

@[simp] theorem yields_advance : Yields advance c t d ↔ c.current = t ∧ c.advance = .ok d := by
  change Except.bind (Except.bind c.advance fun d => .ok (d, c))
    (fun result => .ok (c.current, result.1)) = .ok (t, d) ↔ _
  cases c.advance <;> simp [Except.bind]

theorem yields_advance_bind {f : Token → Parser α} :
    Yields (advance >>= f) c a e ↔ ∃ d, c.advance = .ok d ∧ Yields (f c.current) d a e := by
  rw [yields_bind]
  constructor
  · rintro ⟨_, d, passed, run⟩
    obtain ⟨rfl, advanced⟩ := yields_advance.mp passed
    exact ⟨d, advanced, run⟩
  · rintro ⟨d, advanced, run⟩
    exact ⟨_, d, yields_advance.mpr ⟨rfl, advanced⟩, run⟩

@[simp] theorem not_yields_reject : ¬ Yields (reject what) c a d := by
  simp [reject]

@[simp] theorem yields_expect : Yields (expect kind what) c t d ↔
    c.current.kind = kind ∧ c.current = t ∧ c.advance = .ok d := by
  by_cases same : c.current.kind = kind <;> simp [expect, same, and_assoc]

theorem yields_accept : Yields (accept kind) c b d ↔
    (c.current.kind = kind ∧ b = true ∧ c.advance = .ok d) ∨
      (c.current.kind ≠ kind ∧ b = false ∧ c = d) := by
  by_cases same : c.current.kind = kind <;> simp [accept, same, and_assoc, and_comm]

@[simp] theorem yields_accept_true : Yields (accept kind) c true d ↔
    c.current.kind = kind ∧ c.advance = .ok d := by
  simp [yields_accept]

@[simp] theorem yields_accept_false : Yields (accept kind) c false d ↔
    c.current.kind ≠ kind ∧ c = d := by
  simp [yields_accept]

/-- A choice on whether the token in view is of a given kind, which is then passed. -/
theorem yields_accept_bind {f : Bool → Parser α} : Yields (accept kind >>= f) c a e ↔
    (c.current.kind = kind ∧ ∃ d, c.advance = .ok d ∧ Yields (f true) d a e) ∨
      (c.current.kind ≠ kind ∧ Yields (f false) c a e) := by
  rw [yields_bind]
  constructor
  · rintro ⟨_ | _, d, accepted, run⟩
    · obtain ⟨other, rfl⟩ := yields_accept_false.mp accepted
      exact .inr ⟨other, run⟩
    · obtain ⟨found, advanced⟩ := yields_accept_true.mp accepted
      exact .inl ⟨found, d, advanced, run⟩
  · rintro (⟨found, d, advanced, run⟩ | ⟨other, run⟩)
    · exact ⟨true, d, yields_accept_true.mpr ⟨found, advanced⟩, run⟩
    · exact ⟨false, c, yields_accept_false.mpr ⟨other, rfl⟩, run⟩

@[simp] theorem yields_literal {read : String → Option α} :
    Yields (literal read t) c a d ↔ read t.text = some a ∧ c = d := by
  unfold literal
  split <;> simp_all [eq_comm]

@[simp] theorem yields_separator : Yields (separator closing what) c u d ↔
    (c.current.kind = .comma ∧ c.advance = .ok d) ∨
      (c.current.kind ≠ .comma ∧ c.current.kind = closing ∧ c = d) := by
  by_cases comma : c.current.kind = .comma <;> by_cases closes : c.current.kind = closing <;>
    simp_all [separator, yields_accept, and_assoc]

end Parser

end PiecewiseLang
