import PiecewiseLang.Proofs.Parsing.Agreement
import PiecewiseLang.Proofs.Parsing.Rounds

/-! The limits of the parser. A token has been passed before every expression inside another one
and between two rounds of a loop. So where the limits are above the number of tokens left, they
are not reached, and what a parser would do beyond them does not matter. -/
namespace PiecewiseLang

namespace Cursor

/-- Fewer tokens than counted can be passed before the end of input, or before a fault. -/
inductive Below : Nat → Cursor → Prop where
  | ended : c.current.kind = .endOfInput → Below (n + 1) c
  | more : (∀ d, c.advance = .ok d → Below n d) → Below (n + 1) c

namespace Below

variable {c d : Cursor}

theorem mono (below : c.Below n) (le : n ≤ m) : c.Below m := by
  induction below generalizing m with
  | ended ended =>
    obtain ⟨m, rfl⟩ := Nat.exists_eq_succ_of_ne_zero (Nat.ne_zero_of_lt le)
    exact .ended ended
  | more _ ih =>
    obtain ⟨m, rfl⟩ := Nat.exists_eq_succ_of_ne_zero (Nat.ne_zero_of_lt le)
    exact .more fun d advanced => ih d advanced (Nat.le_of_succ_le_succ le)

theorem min (below : c.Below n) (below' : c.Below m) : c.Below (min n m) := by
  rcases Nat.le_total n m with le | le
  · rwa [Nat.min_eq_left le]
  · rwa [Nat.min_eq_right le]

theorem advance (below : c.Below (n + 1)) (inside : c.current.kind ≠ .endOfInput)
    (advanced : c.advance = .ok d) : d.Below n := by
  cases below with
  | ended ended => exact absurd ended inside
  | more next => exact next d advanced

theorem passes (below : c.Below n) (passed : c.Passes words d) : d.Below (n - words.length) := by
  induction passed generalizing n with
  | done => exact below
  | step inside advanced _ ih =>
    obtain ⟨n, rfl⟩ : ∃ k, n = k + 1 := by
      cases below with
      | ended => exact ⟨_, rfl⟩
      | more => exact ⟨_, rfl⟩
    rw [List.length_cons, Nat.succ_sub_succ]
    exact ih (below.advance inside advanced)

theorem before (below : c.Below (n + 1)) (passed : c.Before d) : d.Below n := by
  obtain ⟨words, passed, some⟩ := passed
  exact (below.passes passed).mono (by omega)

theorem after (below : c.Below n) (passed : c.Passes words d) : d.Below n :=
  (below.passes passed).mono (Nat.sub_le _ _)

end Below

end Cursor

open Cursor

namespace Parser

theorem run_bind (p : Parser α) (f : α → Parser β) (c : Cursor) : (p >>= f).run c =
    (p.run c).bind fun result => (f result.1).run result.2 := rfl

/-- Two parsers do the same at a cursor, and neither is stopped there for its nesting. -/
structure Settles (p q : Parser α) (c : Cursor) : Prop where
  same : p.run c = q.run c
  ends : ∀ position, p.run c ≠ .error (.error ⟨.nestedTooDeeply, position⟩)

namespace Settles

variable {c d : Cursor} {n : Nat} {p q r : Parser α}

theorem symm (settles : Settles p q c) : Settles q p c where
  same := settles.same.symm
  ends := settles.same ▸ settles.ends

theorem trans (first : Settles p q c) (second : Settles q r c) : Settles p r c where
  same := first.same.trans second.same
  ends := first.ends

theorem like {p' q' : Parser α} (settles : Settles p' q' d) (same : p.run c = p'.run d)
    (same' : q.run c = q'.run d) : Settles p q c where
  same := same.trans (settles.same.trans same'.symm)
  ends := same ▸ settles.ends

theorem pure (a : α) : Settles (pure a) (pure a) c := ⟨rfl, fun _ => nofun⟩

theorem fail (other : cause ≠ .nestedTooDeeply) (position : Int) :
    Settles (fail cause position : Parser α) (Parser.fail cause position) c := by
  refine ⟨rfl, fun position stopped => other ?_⟩
  cases stopped
  rfl

theorem reject (what : Expectation) : Settles (reject what : Parser α) (Parser.reject what) c :=
  (fail (by simp) c.current.position).like (run_reject what c) (run_reject what c)

theorem literal (read : String → Option α) (t : Token) :
    Settles (literal read t) (Parser.literal read t) c := by
  unfold Parser.literal
  split
  · exact .pure _
  · exact ⟨rfl, fun _ => nofun⟩

theorem bind {f g : α → Parser β} (first : Settles p q c)
    (rest : ∀ {a d}, p.Yields c a d → Settles (f a) (g a) d) :
    Settles (p >>= f) (q >>= g) c := by
  cases ran : p.run c with
  | error failure =>
    refine ⟨by rw [run_bind, run_bind, ← first.same, ran]; rfl, fun position stopped => ?_⟩
    rw [run_bind, ran] at stopped
    exact first.ends position (ran.trans (congrArg _ (Except.error.inj stopped)))
  | ok result =>
    exact (rest ran).like (by rw [run_bind, ran]; rfl) (by rw [run_bind, ← first.same, ran]; rfl)

theorem map (settles : Settles p q c) (make : α → β) :
    Settles (p >>= fun a => Pure.pure (make a)) (q >>= fun a => Pure.pure (make a)) c :=
  settles.bind fun _ => .pure _

theorem peek {f g : Token → Parser α} (rest : Settles (f c.current) (g c.current) c) :
    Settles (peek >>= f) (Parser.peek >>= g) c :=
  rest.like (run_peek f c) (run_peek g c)

/-- Passing a token leaves fewer. The end of input is not passed. -/
theorem advance {f g : Token → Parser α} (below : c.Below (n + 1))
    (inside : c.current.kind ≠ .endOfInput)
    (rest : ∀ {d}, d.Below n → Settles (f c.current) (g c.current) d) :
    Settles (advance >>= f) (Parser.advance >>= g) c := by
  cases advanced : c.advance with
  | error failure =>
    obtain ⟨fault, rfl⟩ := fault_of_advance advanced
    refine ⟨by rw [run_advance_bind, run_advance_bind, advanced]; rfl, fun position => ?_⟩
    rw [run_advance_bind, advanced]
    nofun
  | ok d =>
    exact (rest (below.advance inside advanced)).like (by rw [run_advance_bind, advanced]; rfl)
      (by rw [run_advance_bind, advanced]; rfl)

/-- A choice on the kind of the token in view, which is passed if it is that kind. -/
theorem accept {f g : Bool → Parser α} (below : c.Below n) (kind : TokenKind)
    (other : kind ≠ .endOfInput) (passed : ∀ {d}, d.Below n → Settles (f true) (g true) d)
    (stayed : Settles (f false) (g false) c) :
    Settles (accept kind >>= f) (Parser.accept kind >>= g) c := by
  by_cases found : c.current.kind = kind
  · refine (advance (f := fun _ => f true) (g := fun _ => g true) (below.mono (Nat.le_succ n))
      (found ▸ other) passed).like ?_ ?_ <;> rw [run_accept, if_pos found]
  · refine stayed.like ?_ ?_ <;> rw [run_accept, if_neg found]

theorem expect {f g : Token → Parser α} (below : c.Below n) (kind : TokenKind)
    (other : kind ≠ .endOfInput) (what : Expectation)
    (passed : ∀ {d}, d.Below n → Settles (f c.current) (g c.current) d) :
    Settles (expect kind what >>= f) (Parser.expect kind what >>= g) c := by
  by_cases found : c.current.kind = kind
  · refine (advance (below.mono (Nat.le_succ n)) (found ▸ other) passed).like ?_ ?_ <;>
      rw [run_expect, if_pos found]
  · refine (reject (c := c) what).like ?_ ?_ <;> rw [run_expect, if_neg found]

theorem separator (below : c.Below n) (closing : TokenKind) (what : Expectation)
    (rest : ∀ {d}, d.Below n → Settles p q d) :
    Settles (separator closing what >>= fun _ => p) (Parser.separator closing what >>= fun _ => q)
      c := by
  by_cases comma : c.current.kind = .comma
  · refine (advance (f := fun _ => p) (g := fun _ => q) (below.mono (Nat.le_succ n))
      (by simp [comma]) rest).like ?_ ?_ <;> rw [run_separator, if_pos comma]
  by_cases closes : c.current.kind = closing
  · refine (rest below).like ?_ ?_ <;> rw [run_separator, if_neg comma, if_pos closes]
  · refine (reject (c := c) what).like ?_ ?_ <;> rw [run_separator, if_neg comma, if_neg closes]

end Settles

/-- Loops with rounds that do the same do the same themselves, as long as each is allowed a round
for every token left and one more. -/
theorem loop_settles {round round' : σ → Parser (Turn σ α)} (advances : Advances round)
    (turns : ∀ {state c}, c.Below n → Settles (round state) (round' state) c) {c : Cursor}
    (below : c.Below n) (enough : n ≤ bound) (enough' : n ≤ bound') (state : σ) :
    Settles (loop round bound state) (loop round' bound' state) c := by
  -- Not on the bounds, which may differ: a round that goes on leaves fewer tokens for the next.
  induction n generalizing bound bound' state c with
  | zero => cases below
  | succ n ih =>
    obtain ⟨bound, rfl⟩ := Nat.exists_eq_succ_of_ne_zero (Nat.ne_zero_of_lt enough)
    obtain ⟨bound', rfl⟩ := Nat.exists_eq_succ_of_ne_zero (Nat.ne_zero_of_lt enough')
    refine (turns below).bind fun {turn d} taken => ?_
    cases turn with
    | leave result => exact .pure result
    | goOn next =>
      have later {state c} (below : c.Below n) : Settles (round state) (round' state) c :=
        turns (below.mono (Nat.le_succ n))
      exact ih later (below.before (advances taken)) (Nat.le_of_succ_le_succ enough)
        (Nat.le_of_succ_le_succ enough') next

/-- The parsers for the expressions inside do the same at cursors with fewer tokens than counted
before them, and one of them passes tokens by the rules of reading. -/
structure InnerSettles (n : Nat) (deeper deeper' : Precedence → Parser Expr) : Prop where
  reads : ReadsExpressions deeper
  settles : ∀ {precedence c}, c.Below n → Settles (deeper precedence) (deeper' precedence) c

section
variable {deeper deeper' : Precedence → Parser Expr} {c : Cursor} {n bound bound' : Nat}

/-- What comes after an expression inside. -/
theorem InnerSettles.bind {f g : Expr → Parser α} (inner : InnerSettles n deeper deeper')
    (below : c.Below n) (rest : ∀ {e d}, d.Below n → Settles (f e) (g e) d) :
    Settles (deeper precedence >>= f) (deeper' precedence >>= g) c := by
  refine (inner.settles below).bind fun {e d} run => rest ?_
  obtain ⟨words, passed, -⟩ := inner.reads run
  exact below.after passed

theorem arguments_settles (inner : InnerSettles n deeper deeper') (below : c.Below n)
    (enough : n ≤ bound) (enough' : n ≤ bound') :
    Settles (arguments deeper bound) (arguments deeper' bound') c := by
  rw [arguments_eq_loop, arguments_eq_loop]
  refine loop_settles (argumentRound_advances inner.reads) ?_ below enough enough' []
  intro before c below
  refine .accept below _ (by decide) (fun _ => .pure _) ?_
  exact inner.bind below fun below => .separator below _ _ fun _ => .pure _

theorem members_settles (inner : InnerSettles n deeper deeper') (below : c.Below n)
    (enough : n ≤ bound) (enough' : n ≤ bound') :
    Settles (members deeper bound) (members deeper' bound') c := by
  rw [members_eq_loop, members_eq_loop]
  refine loop_settles (memberRound_advances inner.reads) ?_ below enough enough' []
  intro before c below
  refine .accept below _ (by decide) (fun _ => .pure _) ?_
  refine .expect below _ (by decide) _ fun below => ?_
  refine .accept below _ (by decide) (fun _ => .pure _) ?_
  exact inner.bind below fun _ => .pure _

theorem guardOf_passes (reads : ReadsExpressions deeper) {guarded : Bool × Expr}
    (run : (guardOf deeper seenElse).Yields c guarded d) : ∃ words, c.Passes words d := by
  simp only [guardOf, yields_peek_bind, yields_accept_bind, Bool.false_eq_true, if_false, if_true,
    not_yields_reject, and_false, or_false] at run
  rcases run with ⟨ifWord, m, advanced, run⟩ | ⟨-, elseWord, m, advanced, run⟩
  · obtain ⟨e, _, condition, same⟩ := yields_bind.mp run
    obtain ⟨-, rfl⟩ := yields_pure.mp same
    obtain ⟨words, passed, -⟩ := reads condition
    exact ⟨_, passes_kind ifWord (by decide) advanced passed⟩
  · cases seenElse with
    | true => exact absurd run not_yields_fail
    | false =>
      obtain ⟨-, rfl⟩ := yields_pure.mp run
      exact ⟨_, passes_kind elseWord (by decide) advanced .done⟩

theorem guardOf_settles (inner : InnerSettles n deeper deeper') (below : c.Below n)
    (seenElse : Bool) : Settles (guardOf deeper seenElse) (guardOf deeper' seenElse) c := by
  refine .peek (.accept below _ (by decide) (fun below => ?_) ?_)
  · exact inner.bind below fun _ => .pure _
  · refine .accept below _ (by decide) (fun _ => ?_) (.reject _)
    cases seenElse with
    | false => exact .pure _
    | true => exact Settles.fail (by simp) _

theorem arms_settles (inner : InnerSettles n deeper deeper') (below : c.Below n)
    (enough : n ≤ bound) (enough' : n ≤ bound') (value : Expr) :
    Settles (arms deeper bound false value) (arms deeper' bound' false value) c := by
  rw [arms_eq_loop, arms_eq_loop]
  refine loop_settles (armRound_advances inner.reads) ?_ below enough enough' _
  intro block c below
  refine (guardOf_settles inner below block.seenElse).bind fun {guard d} run => ?_
  obtain ⟨words, passed⟩ := guardOf_passes inner.reads run
  have below := below.after passed
  refine .expect below _ (by decide) _ fun below => ?_
  refine .accept below _ (by decide) (fun _ => .pure _) ?_
  exact inner.bind below fun _ => .pure _

theorem brace_settles (inner : InnerSettles n deeper deeper') (below : c.Below (n + 1))
    (opens : c.current.kind = .leftBrace) (enough : n ≤ bound) (enough' : n ≤ bound') :
    Settles (brace deeper bound) (brace deeper' bound') c := by
  refine .advance below (by simp [opens]) fun below => ?_
  refine .accept below _ (by decide) (fun _ => .pure _) ?_
  refine inner.bind below fun {first d} below => .peek ?_
  split
  · exact (arms_settles inner below enough enough' first).map _
  · exact (arms_settles inner below enough enough' first).map _
  · exact (members_settles inner below enough enough').map _
  · exact (members_settles inner below enough enough').map _
  · exact .reject _

/-- An expression after the token in view, and a closing token. -/
theorem enclosed_settles (inner : InnerSettles n deeper deeper') (below : c.Below (n + 1))
    (inside : c.current.kind ≠ .endOfInput) (closing : TokenKind) (other : closing ≠ .endOfInput)
    (what : Expectation) (make : Expr → Expr) :
    Settles (do
      let _ ← advance
      let e ← deeper .lowest
      let _ ← expect closing what
      return make e) (do
      let _ ← advance
      let e ← deeper' .lowest
      let _ ← expect closing what
      return make e) c := by
  refine .advance below inside fun below => inner.bind below fun below => ?_
  exact .expect below _ other _ fun _ => .pure _

theorem operand_settles (inner : InnerSettles n deeper deeper') (below : c.Below (n + 1))
    (enough : n ≤ bound) (enough' : n ≤ bound') :
    Settles (operand deeper bound) (operand deeper' bound') c := by
  refine .peek ?_
  split
  case h_1 kind => exact .advance below (by simp [kind]) fun _ => .pure _
  case h_2 kind => exact .advance below (by simp [kind]) fun _ => (Settles.literal _ _).map _
  case h_3 kind => exact .advance below (by simp [kind]) fun _ => (Settles.literal _ _).map _
  case h_4 kind => exact .advance below (by simp [kind]) fun _ => .pure _
  case h_5 kind => exact .advance below (by simp [kind]) fun _ => .pure _
  case h_6 kind => exact .advance below (by simp [kind]) fun _ => .pure _
  case h_7 kind => exact enclosed_settles inner below (by simp [kind]) _ (by decide) _ id
  case h_8 kind => exact enclosed_settles inner below (by simp [kind]) _ (by decide) _ _
  case h_9 kind => exact brace_settles inner below kind enough enough'
  case h_10 =>
    split
    case h_1 symbol found =>
      have inside : c.current.kind ≠ .endOfInput := by
        intro ended
        rw [ended] at found
        cases found
      exact .advance below inside fun below => inner.bind below fun _ => .pure _
    case h_2 => exact Settles.fail (by simp) _

theorem climb_settles (inner : InnerSettles n deeper deeper') (below : c.Below n)
    (enough : n ≤ bound) (enough' : n ≤ bound') (precedence : Precedence) (left : Expr) :
    Settles (climb deeper bound precedence bound left)
      (climb deeper' bound' precedence bound' left) c := by
  rw [← climb_loop, ← climb_loop]
  refine loop_settles (climbRound_advances inner.reads) ?_ below enough enough' left
  intro left c below
  simp only [climbRound]
  refine .peek ?_
  split
  case isTrue => exact .pure _
  case isFalse continues =>
    have inside : c.current.kind ≠ .endOfInput := by
      intro ended
      rw [ended] at continues
      exact continues rfl
    have below := below.mono (Nat.le_succ n)
    split
    · exact .advance below inside fun _ => .pure _
    split
    · exact Settles.fail (by simp) _
    split
    · exact Settles.fail (by simp) _
    split
    · exact .pure _
    refine .advance below inside fun below => ?_
    split
    · exact (arguments_settles inner below enough enough').map _
    · exact inner.bind below fun _ => .pure _

end

/-- An expression over a parser for the expressions inside it. -/
def level (deeper : Precedence → Parser Expr) (bound : Nat) (precedence : Precedence) :
    Parser Expr := do
  let left ← operand deeper bound
  climb deeper bound precedence bound left

theorem expression_succ (bound nesting : Nat) (precedence : Precedence) :
    expression bound (nesting + 1) precedence =
      level (expression bound nesting) bound precedence := rfl

theorem level_settles (inner : InnerSettles n deeper deeper') {c : Cursor}
    (below : c.Below (n + 1)) (enough : n ≤ bound) (enough' : n ≤ bound')
    (precedence : Precedence) :
    Settles (level deeper bound precedence) (level deeper' bound' precedence) c := by
  refine (operand_settles inner below enough enough').bind fun {left d} run => ?_
  obtain ⟨words, passed, operand⟩ := operand_sound inner.reads run
  have below := below.before ⟨words, passed, operand.length_pos⟩
  exact climb_settles inner below enough enough' precedence left

/-- Parsers each of which is a level over the one before do as the parser of expressions does, at
cursors with fewer tokens before them than there are levels. -/
theorem expression_settles (parse : Nat → Precedence → Parser Expr)
    (levels : ∀ {k c} precedence, k < limit → c.Below (k + 1) →
      (parse (k + 1) precedence).run c = (level (parse k) bound' precedence).run c)
    (enough' : limit ≤ bound') {c : Cursor} (below : c.Below n) (le : n ≤ limit)
    (fits : n ≤ nesting) (enough : n ≤ bound) (precedence : Precedence) :
    Settles (expression bound nesting precedence) (parse n precedence) c := by
  induction n generalizing nesting c precedence with
  | zero => cases below
  | succ n ih =>
    obtain ⟨nesting, rfl⟩ := Nat.exists_eq_succ_of_ne_zero (Nat.ne_zero_of_lt fits)
    have inner : InnerSettles n (expression bound nesting) (parse n) :=
      ⟨expression_sound, fun below => ih below (by omega) (by omega) (by omega) _⟩
    rw [expression_succ]
    refine (level_settles inner below ?_ ?_ precedence).like rfl
      (levels precedence (by omega) below) <;> omega

end Parser

end PiecewiseLang
