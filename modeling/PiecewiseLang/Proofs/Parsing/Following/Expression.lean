import PiecewiseLang.Proofs.Parsing.Following

/-! The parser of expressions follows the words it sees. This is shown of each of its parts with
an arbitrary parser for the expressions inside that does so, and the knot is tied by induction
on the nesting. What is left open by an error is closed with as little as the grammar allows,
and where an expression is missing, with `undefined`. -/
namespace PiecewiseLang

open Cursor

namespace Parser

variable {ι : Type} {room room' bounds : ι → Nat} {c : Cursor}

/-- The parser ends before every kind of token. -/
def anyKind (_ : TokenKind) : Prop := True

/-- The parser ends before the tokens that end expressions. -/
def endKind (kind : TokenKind) : Prop := kind.endsExpression = true

/-- The parsers for the expressions inside follow the words, and if the first one takes up an
expression at all, the others read some. -/
structure Inner (room : ι → Nat) (deeper : Precedence → Parser Expr)
    (D : ι → Precedence → Parser Expr) : Prop where
  follows (precedence : Precedence) (c : Cursor) :
    FollowsAt endKind 1 room (deeper precedence) (fun i => D i precedence) c
  completes {precedence : Precedence} {c : Cursor} : (deeper precedence).Lives c →
    Completes endKind 1 room (fun i => D i precedence) []

theorem Inner.shrink (inner : Inner room deeper D) (le : ∀ i, room' i ≤ room i) :
    Inner room' deeper D :=
  ⟨fun precedence c => (inner.follows precedence c).shrink le,
    fun lives => (inner.completes lives).shrink le⟩

theorem not_lives_tooDeep : ¬(tooDeep : Parser α).Lives c := by
  rintro (⟨a, d, run⟩ | ⟨e, errs⟩)
  · exact not_yields_tooDeep run
  · exact not_errs_tooDeep errs

/-- A loop that still has room has a round left. -/
theorem round_left (le : ∀ i, room i ≤ bounds i) (i : ι) (left : 0 < room i) :
    bounds i = bounds i - 1 + 1 := by
  have enough := le i
  omega

theorem run_separator (closing : TokenKind) (what : Expectation) (p : Parser α) (c : Cursor) :
    (separator closing what >>= fun _ => p).run c =
      if c.current.kind = .comma then (advance >>= fun _ => p).run c
      else if c.current.kind = closing then p.run c else (reject what : Parser α).run c := by
  unfold separator
  rw [bind_assoc, run_accept]
  by_cases comma : c.current.kind = .comma
  · rw [if_pos comma, if_pos comma]
    rfl
  · rw [if_neg comma, if_neg comma]
    have looked : (((if false = true then Pure.pure () else do
        if (← peek).kind = closing then return
        else reject what : Parser Unit) >>= fun _ => p).run c) =
      ((if c.current.kind = closing then Pure.pure () else reject what : Parser Unit) >>=
        fun _ => p).run c := rfl
    rw [looked]
    by_cases closes : c.current.kind = closing
    · rw [if_pos closes, if_pos closes, pure_bind]
    · rw [if_neg closes, if_neg closes]
      rfl

/-- The separator after an item, before a list that goes on or is closed. -/
theorem separator_follows {p : Parser α} {P : ι → Parser α}
    (rest : ∀ d, FollowsAt anyKind 1 room p P d) (finish : Completes anyKind 1 room P [])
    (closing : TokenKind) (what : Expectation) (c : Cursor) :
    FollowsAt anyKind 1 room (separator closing what >>= fun _ => p)
      (fun i => separator closing what >>= fun _ => P i) c := by
  by_cases comma : c.current.kind = .comma
  · have passes : FollowsAt anyKind (1 + 1) room (advance >>= fun _ => p)
        (fun i => advance >>= fun _ => P i) c :=
      .advance (by simp [comma]) (fun _ _ _ _ _ _ => Iff.rfl) rest (fun _ => finish)
        (fun i => Nat.le_succ _)
    refine (passes.like (by rw [run_separator, if_pos comma]) ?_ (by omega)).fewer (by omega)
    intro i c' _ shown a d
    have comma' : c'.current.kind = .comma := (kind_eq shown).trans comma
    rw [Yields, run_separator, if_pos comma', Yields]
  by_cases closes : c.current.kind = closing
  · refine (rest c).like (by rw [run_separator, if_neg comma, if_pos closes]) ?_ Nat.one_pos
    intro i c' _ shown a d
    have kind := kind_eq shown
    rw [Yields, run_separator, if_neg (kind ▸ comma), if_pos (kind ▸ closes), Yields]
  · refine .rejected ⟨_, by rw [run_separator, if_neg comma, if_neg closes, run_reject]⟩
      fun i c' shown a d => ?_
    have kind := kind_eq shown
    rw [Yields, run_separator, if_neg (kind ▸ comma), if_neg (kind ▸ closes)]
    exact not_yields_reject

theorem separator_takes {P : ι → Parser α} (takes : Takes room P (w :: words) next a)
    (closes : w.kind = closing) (other : closing ≠ .comma) :
    Takes room (fun i => separator closing what >>= fun _ => P i) (w :: words) next a := by
  refine takes.like fun i c _ shown a d => ?_
  have kind : c.current.kind = closing := (congrArg Word.kind shown).trans closes
  rw [Yields, run_separator, if_neg (kind ▸ other), if_pos kind, Yields]

section
variable {deeper : Precedence → Parser Expr} {D : ι → Precedence → Parser Expr}

theorem arguments_takes (le : ∀ i, room i ≤ bounds i) (next : TokenKind) :
    Takes room (fun i => arguments (D i) (bounds i)) [⟨.rightParen, ")"⟩] next [] := by
  refine .unfold ?_ fun i left => congrArg (arguments (D i)) (round_left le i left)
  exact takes_accept (takes_pure [] next)

theorem arguments_follows (inner : Inner room deeper D) (le : ∀ i, room i ≤ bounds i)
    (c : Cursor) : FollowsAt anyKind 1 room (arguments deeper bound)
      (fun i => arguments (D i) (bounds i)) c := by
  induction bound generalizing room bounds c with
  | zero => exact .silent not_lives_tooDeep
  | succ bound ih =>
    refine .unfold ?_ fun i left => congrArg (arguments (D i)) (round_left le i left)
    simp only [arguments]
    refine .accept (by decide) (fun d => .pure []) (completes_pure _ _) fun _ => ?_
    have rest : ∀ i, room i - 1 ≤ bounds i - 1 := fun i => Nat.sub_le_sub_right (le i) 1
    have spent : ∀ i, room i ≤ room i - 1 + 1 := fun i => by omega
    have others : ∀ first d, FollowsAt anyKind 1 (fun i => room i - 1)
        (arguments deeper bound >>= fun es => pure (first :: es))
        (fun i => arguments (D i) (bounds i - 1) >>= fun es => pure (first :: es)) d :=
      fun first d => (ih (inner.shrink fun i => Nat.sub_le _ _) rest d).map _
    have closes : ∀ (first : Expr) next, Takes (fun i => room i - 1)
        (fun i => arguments (D i) (bounds i - 1) >>= fun es => pure (first :: es))
        [⟨.rightParen, ")"⟩] next [first] := fun first next =>
      (arguments_takes rest next).map (first :: ·)
    refine ((inner.follows .lowest c).bind (fun first d _ => ?_) (fun _ first => ?_)
      spent (.inl Nat.one_pos)).fewer (by omega)
    · exact separator_follows (others first)
        (Takes.completes (closes first) (by simp) (Nat.le_refl 1)) _ _ d
    · refine ⟨[⟨.rightParen, ")"⟩], [first], by simp, Nat.le_refl 1, fun next _ => ⟨rfl, ?_⟩⟩
      exact separator_takes (closes first next) rfl (by decide)

theorem members_takes (le : ∀ i, room i ≤ bounds i) (next : TokenKind) :
    Takes room (fun i => members (D i) (bounds i)) [⟨.rightBrace, "\x7d"⟩] next [] := by
  refine .unfold ?_ fun i left => congrArg (members (D i)) (round_left le i left)
  exact takes_accept (takes_pure [] next)

theorem members_follows (inner : Inner room deeper D) (le : ∀ i, room i ≤ bounds i)
    (c : Cursor) : FollowsAt anyKind 1 room (members deeper bound)
      (fun i => members (D i) (bounds i)) c := by
  induction bound generalizing room bounds c with
  | zero => exact .silent not_lives_tooDeep
  | succ bound ih =>
    refine .unfold ?_ fun i left => congrArg (members (D i)) (round_left le i left)
    simp only [members]
    refine .accept (by decide) (fun d => .pure []) (completes_pure _ _) fun _ => ?_
    have rest : ∀ i, room i - 1 ≤ bounds i - 1 := fun i => Nat.sub_le_sub_right (le i) 1
    have spent : ∀ i, room i ≤ room i - 1 + 1 := fun i => by omega
    refine (FollowsAt.expect (by decide) (fun _ _ _ _ _ _ _ => Iff.rfl) (fun _ d => ?_)
      (fun _ => ?_) (fun i => Nat.le_succ _)).fewer (Nat.le_succ 1)
    · refine .accept (by decide) (fun d => .pure []) (completes_pure _ _) fun _ => ?_
      refine ((inner.follows .lowest d).bind (fun first d' _ => ?_) (fun _ first => ?_)
        spent (.inl Nat.one_pos)).fewer (by omega)
      · exact (ih (inner.shrink fun i => Nat.sub_le _ _) rest d').map _
      · exact ⟨[⟨.rightBrace, "\x7d"⟩], [first], by simp, Nat.le_refl 1,
          fun next _ => ⟨rfl, (members_takes rest next).map (first :: ·)⟩⟩
    · refine ⟨[⟨.rightBrace, "\x7d"⟩], [], by simp, Nat.le_refl 1, fun next _ => ?_⟩
      exact takes_accept (takes_pure [] next)

theorem run_guardOf (deeper : Precedence → Parser Expr) (seenElse : Bool) (c : Cursor) :
    (guardOf deeper seenElse).run c =
      if c.current.kind = .ifWord then
        (advance >>= fun _ => deeper .lowest >>= fun e => pure (false, e)).run c
      else if c.current.kind = .elseWord then
        (advance >>= fun _ => if seenElse then fail .secondElse c.current.position
          else pure (true, .boolean true)).run c
      else (reject .armCondition : Parser (Bool × Expr)).run c := by
  rw [guardOf, run_peek, run_accept]
  by_cases ifWord : c.current.kind = .ifWord
  · rw [if_pos ifWord, if_pos ifWord]
    rfl
  · rw [if_neg ifWord, if_neg ifWord]
    exact run_accept _ _ _

theorem guardOf_follows (inner : Inner room deeper D) (seenElse : Bool) (c : Cursor) :
    FollowsAt endKind 1 room (guardOf deeper seenElse) (fun i => guardOf (D i) seenElse) c := by
  by_cases ifWord : c.current.kind = .ifWord
  · have passes : FollowsAt endKind (1 + 1) room
        (advance >>= fun _ => deeper .lowest >>= fun e => pure (false, e))
        (fun i => advance >>= fun _ => D i .lowest >>= fun e => pure (false, e)) c := by
      refine .advance (by simp [ifWord]) (fun _ _ _ _ _ _ => Iff.rfl)
        (fun d => (inner.follows .lowest d).map _) ?_ (fun i => Nat.le_succ _)
      rintro ⟨d, lives⟩
      obtain ⟨more, e, inside, long, takes⟩ := inner.completes lives.of_bind
      exact ⟨more, (false, e), inside, long, fun next ended => (takes next ended).map _⟩
    refine (passes.like (by rw [run_guardOf, if_pos ifWord]) ?_ (by omega)).fewer (by omega)
    intro i c' _ shown a d
    rw [Yields, run_guardOf, if_pos ((kind_eq shown).trans ifWord), Yields]
  by_cases elseWord : c.current.kind = .elseWord
  · cases seenElse with
    | false =>
      have passes : FollowsAt endKind 1 room (advance >>= fun _ => pure (true, Expr.boolean true))
          (fun _ => advance >>= fun _ => pure (true, Expr.boolean true)) c :=
        .advance (by simp [elseWord]) (fun _ _ _ _ _ _ => Iff.rfl) (fun d => .pure _)
          (fun _ => completes_pure _ _) (fun i => Nat.le_succ _)
      refine passes.like (by rw [run_guardOf, if_neg ifWord, if_pos elseWord]; rfl) ?_ Nat.one_pos
      intro i c' _ shown a d
      rw [Yields, run_guardOf, if_neg (kind_eq shown ▸ ifWord), if_pos (kind_eq shown ▸ elseWord)]
      rfl
    | true =>
      -- The error is raised behind the second `else` but stands at it.
      refine .rejectedBehind ⟨_, by rw [run_guardOf, if_neg ifWord, if_pos elseWord]; rfl⟩
        fun i c' shown => ⟨.secondElse, ?_⟩
      rw [run_guardOf, if_neg (kind_eq shown ▸ ifWord), if_pos (kind_eq shown ▸ elseWord)]
      rfl
  · refine .rejected ⟨_, by rw [run_guardOf, if_neg ifWord, if_neg elseWord, run_reject]⟩
      fun i c' shown a d => ?_
    rw [Yields, run_guardOf, if_neg (kind_eq shown ▸ ifWord), if_neg (kind_eq shown ▸ elseWord)]
    exact not_yields_reject

/-- A block is closed after one more arm. -/
theorem arms_takes (le : ∀ i, room i ≤ bounds i)
    (takes : Takes room (fun i => D i .lowest) words .semicolon e) (seenElse : Bool) (value : Expr)
    (next : TokenKind) : Takes room (fun i => arms (D i) (bounds i) seenElse value)
      (⟨.ifWord, "if"⟩ :: (words ++ [⟨.semicolon, ";"⟩, ⟨.rightBrace, "\x7d"⟩])) next
      [(value, e)] := by
  intro i c d fits passed _
  obtain ⟨ifWord, -, c₁, a₁, rest⟩ := passes_word passed
  obtain ⟨c₂, before, rest⟩ := Passes.append_iff.mp rest
  obtain ⟨semicolon, -, c₃, a₂, rest⟩ := passes_word rest
  obtain ⟨brace, -, c₄, a₃, rest⟩ := passes_word rest
  obtain rfl := Passes.nil_iff.mp rest
  simp only [List.length_cons, List.length_append] at fits
  have condition := takes i c₁ c₂ (by omega) before semicolon
  have guarded : (guardOf (D i) seenElse).Yields c (false, e) c₂ := by
    rw [Yields, run_guardOf, if_pos ifWord]
    exact yields_advance_bind.mpr ⟨c₁, a₁, yields_bind.mpr ⟨e, c₂, condition,
      yields_pure.mpr ⟨rfl, rfl⟩⟩⟩
  show (arms (D i) (bounds i) seenElse value).Yields c [(value, e)] c₄
  rw [round_left le i (Nat.zero_lt_of_lt fits), arms]
  exact yields_bind.mpr ⟨_, c₂, guarded, yields_bind.mpr ⟨_, c₃,
    yields_expect.mpr ⟨semicolon, rfl, a₂⟩, yields_accept_bind.mpr (.inl ⟨brace, c₄, a₃,
      yields_pure.mpr ⟨rfl, rfl⟩⟩)⟩⟩

theorem arms_follows (inner : Inner room deeper D) (le : ∀ i, room i ≤ bounds i)
    (seenElse : Bool) (value : Expr) (c : Cursor) :
    FollowsAt anyKind 1 room (arms deeper bound seenElse value)
      (fun i => arms (D i) (bounds i) seenElse value) c := by
  induction bound generalizing room bounds seenElse value c with
  | zero => exact .silent not_lives_tooDeep
  | succ bound ih =>
    refine .unfold ?_ fun i left => congrArg (arms (D i) · seenElse value) (round_left le i left)
    simp only [arms]
    have rest : ∀ i, room i - 1 ≤ bounds i - 1 := fun i => Nat.sub_le_sub_right (le i) 1
    have spent : ∀ i, room i ≤ room i - 1 + 1 := fun i => by omega
    have fewer : ∀ i, room i - 1 ≤ room i := fun i => Nat.sub_le _ _
    refine ((guardOf_follows inner seenElse c).bind (fun guard d _ => ?_) (fun _ guard => ?_)
      (fun i => Nat.le_succ _) (.inl (Nat.succ_pos 1))).fewer (Nat.le_add_right 1 _)
    · obtain ⟨isElse, g⟩ := guard
      refine FollowsAt.expect (by decide) (fun _ _ _ _ _ _ _ => Iff.rfl) (fun _ d' => ?_)
        (fun _ => ?_) (fun i => Nat.le_succ _)
      · refine .accept (by decide) (fun d => .pure _) (completes_pure _ _) fun _ => ?_
        refine ((inner.follows .lowest d').bind (fun following d'' _ => ?_)
          (fun lives following => ?_) spent (.inl Nat.one_pos)).fewer (Nat.le_add_right 1 _)
        · exact (ih (inner.shrink fewer) rest _ following d'').map _
        · obtain ⟨more, e, inside, long, takes⟩ := inner.completes lives
          have closes := fun next => arms_takes rest ((takes .semicolon rfl).shrink fewer)
            (seenElse || isElse) following next
          refine ⟨⟨.ifWord, "if"⟩ :: (more ++ [⟨.semicolon, ";"⟩, ⟨.rightBrace, "\x7d"⟩]), _,
            ?_, ?_, fun next _ => ⟨rfl, (closes next).map _⟩⟩
          · simpa [or_imp, forall_and] using inside
          · simp
      · refine ⟨[⟨.rightBrace, "\x7d"⟩], [(value, g)], by simp, Nat.le_refl 1, fun next _ => ?_⟩
        exact takes_accept (takes_pure _ next)
    · obtain ⟨isElse, g⟩ := guard
      refine ⟨[⟨.semicolon, ";"⟩, ⟨.rightBrace, "\x7d"⟩], [(value, g)], by simp, Nat.le_refl 2,
        fun next _ => ⟨rfl, ?_⟩⟩
      exact takes_expect fun _ _ => takes_accept (takes_pure _ next)

/-- What a brace is after its first expression. -/
def braceChoice (deeper : Precedence → Parser Expr) (bound : Nat) (opening : Int) (first : Expr) :
    Parser Expr := do
  match (← peek).kind with
  | .ifWord | .elseWord => return .piecewise (← arms deeper bound false first)
  | .comma | .rightBrace => return .set (first :: (← members deeper bound))
  | _ => reject (.braceContent opening)

theorem brace_eq (deeper : Precedence → Parser Expr) (bound : Nat) :
    brace deeper bound = (do
      let opening ← advance
      if ← accept .rightBrace then return .set []
      else braceChoice deeper bound opening.position (← deeper .lowest)) := rfl

theorem run_braceChoice (deeper : Precedence → Parser Expr) (bound : Nat) (opening : Int)
    (first : Expr) (c : Cursor) : (braceChoice deeper bound opening first).run c =
      if c.current.kind = .ifWord ∨ c.current.kind = .elseWord then
        (arms deeper bound false first >>= fun pieces => pure (.piecewise pieces)).run c
      else if c.current.kind = .comma ∨ c.current.kind = .rightBrace then
        (members deeper bound >>= fun es => pure (.set (first :: es))).run c
      else (reject (.braceContent opening) : Parser Expr).run c := by
  rw [braceChoice, run_peek]
  split
  case h_1 kind => rw [kind, if_pos (by decide)]
  case h_2 kind => rw [kind, if_pos (by decide)]
  case h_3 kind => rw [kind, if_neg (by decide), if_pos (by decide)]
  case h_4 kind => rw [kind, if_neg (by decide), if_pos (by decide)]
  case h_5 ifWord elseWord comma brace =>
    rw [if_neg (not_or.mpr ⟨ifWord, elseWord⟩), if_neg (not_or.mpr ⟨comma, brace⟩)]

/-- The position of the brace matters to the error only. -/
theorem yields_braceChoice {deeper : Precedence → Parser Expr} (opening opening' : Int) :
    (braceChoice deeper bound opening first).Yields c a d ↔
      (braceChoice deeper bound opening' first).Yields c a d := by
  rw [Yields, Yields, run_braceChoice, run_braceChoice]
  split
  · exact Iff.rfl
  · split
    · exact Iff.rfl
    · exact iff_of_false not_yields_reject not_yields_reject

theorem braceChoice_follows (inner : Inner room deeper D) (le : ∀ i, room i ≤ bounds i)
    (opening : Int) (first : Expr) (c : Cursor) :
    FollowsAt anyKind 1 room (braceChoice deeper bound opening first)
      (fun i => braceChoice (D i) (bounds i) opening first) c := by
  by_cases block : c.current.kind = .ifWord ∨ c.current.kind = .elseWord
  · refine ((arms_follows inner le false first c).map _).like
      (by rw [run_braceChoice, if_pos block]) ?_ Nat.one_pos
    intro i c' _ shown a d
    rw [Yields, run_braceChoice, if_pos (kind_eq shown ▸ block), Yields]
  by_cases set : c.current.kind = .comma ∨ c.current.kind = .rightBrace
  · refine ((members_follows inner le c).map _).like
      (by rw [run_braceChoice, if_neg block, if_pos set]) ?_ Nat.one_pos
    intro i c' _ shown a d
    rw [Yields, run_braceChoice, if_neg (kind_eq shown ▸ block), if_pos (kind_eq shown ▸ set),
      Yields]
  · refine .rejected ⟨_, by rw [run_braceChoice, if_neg block, if_neg set, run_reject]⟩
      fun i c' shown a d => ?_
    rw [Yields, run_braceChoice, if_neg (kind_eq shown ▸ block), if_neg (kind_eq shown ▸ set)]
    exact not_yields_reject

theorem brace_follows (inner : Inner room deeper D) (le : ∀ i, room i ≤ bounds i)
    (opens : c.current.kind = .leftBrace) : FollowsAt anyKind 1 room (brace deeper bound)
      (fun i => brace (D i) (bounds i)) c := by
  simp only [brace_eq]
  refine (FollowsAt.advance (by simp [opens]) ?_ (fun d => ?_) (fun _ => ?_)
    (fun i => Nat.le_succ _)).fewer (Nat.le_succ 1)
  · intro i t _ m a e
    rw [yields_accept_bind, yields_accept_bind]
    simp only [Bool.false_eq_true, if_false, if_true, yields_bind,
      yields_braceChoice t.position c.current.position]
  · refine .accept (by decide) (fun d => .pure _) (completes_pure _ _) fun _ => ?_
    refine ((inner.follows .lowest d).bind (fun first d' _ => ?_) (fun _ first => ?_)
      (fun i => Nat.le_succ _) (.inl Nat.one_pos)).fewer (Nat.le_succ 1)
    · exact braceChoice_follows inner le _ first d'
    · refine ⟨[⟨.rightBrace, "\x7d"⟩], .set [first], by simp, Nat.le_refl 1,
        fun next _ => ⟨rfl, ?_⟩⟩
      intro i c d fits passed ended
      have brace := (passes_word passed).1
      rw [Yields, run_braceChoice, if_neg (by simp [brace]), if_pos (.inr brace)]
      exact (members_takes le next).map (fun es => Expr.set (first :: es)) i c d fits passed ended
  · refine ⟨[⟨.rightBrace, "\x7d"⟩], .set [], by simp, Nat.le_refl 1, fun next _ => ?_⟩
    exact takes_accept (takes_pure _ next)

theorem closing_takes (closing : Word) (what : Expectation) (result : α) (next : TokenKind) :
    Takes room (fun _ => expect closing.kind what >>= fun _ => pure result) [closing] next result :=
  takes_expect fun _ _ => takes_pure result next

/-- An expression and the token of a given kind that has to stand after it. -/
theorem closed_follows (inner : Inner room deeper D) (closing : Word) (ends : endKind closing.kind)
    (other : closing.kind ≠ .endOfInput) (what : Expectation) (make : Expr → α) (c : Cursor) :
    FollowsAt anyKind 2 room
      (deeper .lowest >>= fun e => expect closing.kind what >>= fun _ => pure (make e))
      (fun i => D i .lowest >>= fun e => expect closing.kind what >>= fun _ => pure (make e)) c := by
  refine (inner.follows .lowest c).bind (fun e d _ => ?_) (fun _ e => ?_)
    (fun i => Nat.le_succ _) (.inl Nat.one_pos)
  · exact .expect other (fun _ _ _ _ _ _ _ => Iff.rfl) (fun _ d => .pure _)
      (fun _ => completes_pure _ _) (fun i => Nat.le_succ _)
  · exact ⟨[closing], make e, by simp [other], Nat.le_refl 1,
      fun next _ => ⟨ends, closing_takes closing what (make e) next⟩⟩

/-- An expression between two tokens of given kinds, as in parentheses and bars. -/
theorem enclosed_follows (inner : Inner room deeper D) (inside : c.current.kind ≠ .endOfInput)
    (closing : Word) (ends : endKind closing.kind) (other : closing.kind ≠ .endOfInput)
    (what : Expectation) (make : Expr → Expr) :
    FollowsAt anyKind 1 room (do
      let _ ← advance
      let inner ← deeper .lowest
      let _ ← expect closing.kind what
      return make inner) (fun i => do
      let _ ← advance
      let inner ← D i .lowest
      let _ ← expect closing.kind what
      return make inner) c := by
  refine (FollowsAt.advance inside (fun _ _ _ _ _ _ => Iff.rfl)
    (closed_follows inner closing ends other what make) ?_ (fun i => Nat.le_succ _)).fewer
    (by omega)
  rintro ⟨d, lives⟩
  obtain ⟨more, e, inside, long, takes⟩ := inner.completes lives.of_bind
  have opened : Takes room (fun i => D i .lowest) more closing.kind e := takes closing.kind ends
  refine ⟨more ++ [closing], make e, ?_, ?_, fun next _ => ?_⟩
  · simpa [or_imp, forall_and, other] using inside
  · simpa using long
  · rw [List.nil_append]
    exact Takes.bind opened (closing_takes closing what (make e) next) fun i => Nat.le_add_right _ _

theorem signed_follows (inner : Inner room deeper D) (inside : c.current.kind ≠ .endOfInput)
    (make : Expr → Expr) :
    FollowsAt endKind 1 room (advance >>= fun _ => deeper .unary >>= fun e => pure (make e))
      (fun i => advance >>= fun _ => D i .unary >>= fun e => pure (make e)) c := by
  refine (FollowsAt.advance inside (fun _ _ _ _ _ _ => Iff.rfl)
    (fun d => (inner.follows .unary d).map make) ?_ (fun i => Nat.le_succ _)).fewer (Nat.le_succ 1)
  rintro ⟨d, lives⟩
  obtain ⟨more, e, inside, long, takes⟩ := inner.completes lives.of_bind
  exact ⟨more, make e, inside, long, fun next ended => (takes next ended).map make⟩

/-- An operand is chosen by the token in view. -/
theorem operand_chosen (body : (Precedence → Parser Expr) → Nat → Parser Expr)
    (same : ∀ deeper bound (c' : Cursor), c'.current.word = c.current.word →
      (operand deeper bound).run c' = (body deeper bound).run c')
    (follows : FollowsAt endKind 1 room (body deeper bound) (fun i => body (D i) (bounds i)) c) :
    FollowsAt endKind 1 room (operand deeper bound) (fun i => operand (D i) (bounds i)) c := by
  refine follows.like (same deeper bound c rfl) ?_ Nat.one_pos
  intro i c' _ shown a d
  rw [Yields, same (D i) (bounds i) c' shown, Yields]

/-- An operand of one token. -/
theorem operand_single (e : Expr) (inside : c.current.kind ≠ .endOfInput)
    (same : ∀ deeper bound (c' : Cursor), c'.current.word = c.current.word →
      (operand deeper bound).run c' = (advance >>= fun _ => pure e).run c') :
    FollowsAt endKind 1 room (operand deeper bound) (fun i => operand (D i) (bounds i)) c :=
  operand_chosen (fun _ _ => advance >>= fun _ => pure e) same
    (.advance inside (fun _ _ _ _ _ _ => Iff.rfl) (fun _ => .pure e) (fun _ => completes_pure _ _)
      (fun _ => Nat.le_succ _))

/-- A numeral that cannot be read is a fault. -/
theorem not_lives_literal {read : String → Option α} (unread : read t.text = none)
    (f : α → Parser β) : ¬(advance >>= fun _ => literal read t >>= f).Lives c := by
  have thrown : literal read t = throw (.fault .malformedNumeral) := by rw [literal, unread]
  rw [thrown]
  rintro (⟨b, d, run⟩ | ⟨e, errs⟩)
  · obtain ⟨m, -, run⟩ := yields_advance_bind.mp run
    cases run
  · obtain ⟨m, -, errs⟩ := errs_advance_bind.mp errs
    cases errs.1

theorem operand_follows (inner : Inner room deeper D) (le : ∀ i, room i ≤ bounds i) (c : Cursor) :
    FollowsAt endKind 1 room (operand deeper bound) (fun i => operand (D i) (bounds i)) c := by
  cases found : c.current.kind with
  | name =>
    refine operand_single (.name c.current.text) (by simp [found]) fun deeper bound c' shown => ?_
    rw [operand, run_peek]
    simp only [kind_eq shown, found, text_eq shown]
  | trueWord =>
    refine operand_single (.boolean true) (by simp [found]) fun deeper bound c' shown => ?_
    rw [operand, run_peek]
    simp only [kind_eq shown, found]
  | falseWord =>
    refine operand_single (.boolean false) (by simp [found]) fun deeper bound c' shown => ?_
    rw [operand, run_peek]
    simp only [kind_eq shown, found]
  | undefinedWord =>
    refine operand_single .undefined (by simp [found]) fun deeper bound c' shown => ?_
    rw [operand, run_peek]
    simp only [kind_eq shown, found]
  | integer =>
    cases read : Text.readInteger c.current.text with
    | none =>
      refine .silent fun lives => not_lives_literal read (fun n => pure (.integer n))
        (lives.like ?_)
      rw [operand, run_peek]
      simp only [found]
    | some n =>
      refine operand_single (.integer n) (by simp [found]) fun deeper bound c' shown => ?_
      rw [operand, run_peek]
      simp only [kind_eq shown, found, literal, text_eq shown, read, pure_bind]
  | real =>
    cases read : Double.read? c.current.text with
    | none =>
      refine .silent fun lives => not_lives_literal read (fun x => pure (.real x)) (lives.like ?_)
      rw [operand, run_peek]
      simp only [found]
    | some x =>
      refine operand_single (.real x) (by simp [found]) fun deeper bound c' shown => ?_
      rw [operand, run_peek]
      simp only [kind_eq shown, found, literal, text_eq shown, read, pure_bind]
  | leftParen =>
    refine operand_chosen (fun deeper _ => do
      let _ ← advance
      let inner ← deeper .lowest
      let _ ← expect .rightParen .closeParen
      return inner) (fun deeper bound c' shown => ?_) ?_
    · rw [operand, run_peek]
      simp only [kind_eq shown, found]
    · exact (enclosed_follows inner (by simp [found]) ⟨.rightParen, ")"⟩ rfl (by decide) _ id).narrow
        fun _ _ => trivial
  | bar =>
    refine operand_chosen (fun deeper _ => do
      let _ ← advance
      let inner ← deeper .lowest
      let _ ← expect .bar .closeBar
      return .magnitude inner) (fun deeper bound c' shown => ?_) ?_
    · rw [operand, run_peek]
      simp only [kind_eq shown, found]
    · exact (enclosed_follows inner (by simp [found]) ⟨.bar, "|"⟩ rfl (by decide) _ _).narrow
        fun _ _ => trivial
  | leftBrace =>
    refine operand_chosen (fun deeper bound => brace deeper bound) (fun deeper bound c' shown => ?_)
      ((brace_follows inner le found).narrow fun _ _ => trivial)
    rw [operand, run_peek]
    simp only [kind_eq shown, found]
  | minus =>
    refine operand_chosen (fun deeper _ => advance >>= fun _ => deeper .unary >>= fun e =>
      pure (.combination ⟨.sub, .prefixed⟩ none (some e))) (fun deeper bound c' shown => ?_)
      (signed_follows inner (by simp [found]) _)
    rw [operand, run_peek]
    simp only [kind_eq shown, found]
    rfl
  | notWord =>
    refine operand_chosen (fun deeper _ => advance >>= fun _ => deeper .unary >>= fun e =>
      pure (.combination ⟨.not, .prefixed⟩ none (some e))) (fun deeper bound c' shown => ?_)
      (signed_follows inner (by simp [found]) _)
    rw [operand, run_peek]
    simp only [kind_eq shown, found]
    rfl
  | _ =>
    refine .rejected ⟨.noExpression c.current, ?_⟩ fun i c' shown a d => ?_
    · rw [operand, run_peek]
      simp only [found, TokenKind.prefixSymbol?]
    · rw [Yields, operand, run_peek]
      simp only [kind_eq shown, found, TokenKind.prefixSymbol?]
      exact not_yields_fail

/-- Nothing extends what stands before a token that ends the level. -/
theorem climb_stops (stops : c.current.kind.endsAt precedence = true) (some : 0 < bound) :
    (climb deeper rounds precedence bound left).Yields c left c := by
  have none : AcceptsExpressions deeper 0 := fun _ read short =>
    absurd read.length_pos (Nat.not_lt.mpr short)
  exact climb_complete none .done (.done stops) (Nat.le_refl 0) (Nat.zero_le _) some

theorem climb_takes {rounds : ι → Nat} (le : ∀ i, room i ≤ bounds i)
    (stops : next.endsAt precedence = true) (left : Expr) :
    Takes room (fun i => climb (D i) (rounds i) precedence (bounds i) left) [] next left := by
  intro i c d fits passed ended
  obtain rfl := Passes.nil_iff.mp passed
  exact climb_stops (ended ▸ stops) (Nat.lt_of_lt_of_le fits (le i))

theorem run_climb_bang (bang : c.current.kind = .bang) :
    (climb deeper rounds precedence (bound + 1) left).run c =
      (advance >>= fun _ => climb deeper rounds precedence bound
        (.combination ⟨.factorial, .postfixed⟩ (some left) none)).run c := by
  rw [climb, run_peek, bang]
  rfl

theorem run_climb_infixed (found : c.current.kind.infixSymbol? = some symbol)
    (strength : Operator.infixPrecedence? symbol = some binding)
    (strong : ¬binding.level ≤ precedence.level) :
    (climb deeper rounds precedence (bound + 1) left).run c =
      (advance >>= fun _ =>
        if symbol = .call then arguments deeper rounds >>= fun es =>
          climb deeper rounds precedence bound (.call left es)
        else deeper binding >>= fun right => climb deeper rounds precedence bound
          (.combination ⟨symbol, .infixed⟩ (some left) (some right))).run c := by
  obtain ⟨continues, notBang⟩ := TokenKind.continues_of_infixSymbol found
  rw [climb, run_peek, continues, if_neg (by decide), if_neg notBang]
  simp only [found, Operator.precedence?, strength, if_neg strong]

/-- A token that neither extends an expression nor ends it is refused at once. -/
theorem run_climb_fail (deeper : Precedence → Parser Expr) (rounds bound : Nat)
    (precedence : Precedence) (left : Expr) (continues : c.current.kind.endsExpression ≠ true)
    (notBang : c.current.kind ≠ .bang) (unbound : c.current.kind.binding? = none) :
    ∃ cause, (climb deeper rounds precedence (bound + 1) left).run c =
      (fail cause c.current.position : Parser Expr).run c := by
  rw [climb, run_peek, if_neg continues, if_neg notBang]
  cases found : c.current.kind.infixSymbol? with
  | none => exact ⟨.unexpectedAfter c.current, rfl⟩
  | some symbol =>
    have strength : Operator.infixPrecedence? symbol = none := by
      simpa [TokenKind.binding?, found] using unbound
    simp only [Operator.precedence?, strength]
    exact ⟨.illegalOperator ⟨symbol, .infixed⟩, rfl⟩

theorem climb_call_follows (rounds' : Nat) (inner : Inner room deeper D) {rounds : ι → Nat}
    (le : ∀ i, room i ≤ rounds i) (inside : c.current.kind ≠ .endOfInput)
    {next : List Expr → Parser Expr} {N : ι → List Expr → Parser Expr}
    (climbs : ∀ es d, FollowsAt endKind 0 room' (next es) (fun i => N i es) d)
    (done : ∀ es, ∃ e, ∀ kind, endKind kind → Takes room' (fun i => N i es) [] kind e)
    (spent : ∀ i, room i ≤ room' i + 1) :
    FollowsAt endKind 1 room (advance >>= fun _ => arguments deeper rounds' >>= next)
      (fun i => advance >>= fun _ => arguments (D i) (rounds i) >>= N i) c := by
  refine (FollowsAt.advance inside (fun _ _ _ _ _ _ => Iff.rfl) (fun d => ?_) (fun _ => ?_)
    (fun i => Nat.le_succ _)).fewer (Nat.le_succ 1)
  · refine (arguments_follows inner le d).bind (fun es d' _ => climbs es d') (fun _ es => ?_) spent
      (.inr fun _ _ => trivial)
    obtain ⟨e, takes⟩ := done es
    exact ⟨[], e, nofun, Nat.le_refl 0, fun kind ended => ⟨trivial, takes kind ended⟩⟩
  · obtain ⟨e, takes⟩ := done []
    refine ⟨[⟨.rightParen, ")"⟩], e, by simp, Nat.le_refl 1, fun kind ended => ?_⟩
    have both := Takes.bind (arguments_takes (D := D) le kind) (takes kind ended) spent
    rwa [List.append_nil] at both

theorem climb_operand_follows (inner : Inner room deeper D) (inside : c.current.kind ≠ .endOfInput)
    (binding : Precedence) {next : Expr → Parser Expr} {N : ι → Expr → Parser Expr}
    (climbs : ∀ right d, FollowsAt endKind 0 room' (next right) (fun i => N i right) d)
    (done : ∀ right, ∃ e, ∀ kind, endKind kind → Takes room' (fun i => N i right) [] kind e)
    (spent : ∀ i, room i ≤ room' i + 1) :
    FollowsAt endKind 1 room (advance >>= fun _ => deeper binding >>= next)
      (fun i => advance >>= fun _ => D i binding >>= N i) c := by
  refine (FollowsAt.advance inside (fun _ _ _ _ _ _ => Iff.rfl) (fun d => ?_) ?_
    (fun i => Nat.le_succ _)).fewer (Nat.le_succ 1)
  · refine (inner.follows binding d).bind (fun right d' _ => climbs right d') (fun _ right => ?_)
      spent (.inr fun _ => id)
    obtain ⟨e, takes⟩ := done right
    exact ⟨[], e, nofun, Nat.le_refl 0, fun kind ended => ⟨ended, takes kind ended⟩⟩
  · rintro ⟨d, lives⟩
    obtain ⟨more, right, inside, long, operand⟩ := inner.completes lives.of_bind
    obtain ⟨e, takes⟩ := done right
    refine ⟨more, e, inside, long, fun kind ended => ?_⟩
    have enough : ∀ i, room i ≤ room' i + more.length := fun i =>
      Nat.le_trans (spent i) (Nat.add_le_add_left long _)
    have both := Takes.bind (operand kind ended) (takes kind ended) enough
    rwa [List.append_nil] at both

theorem climb_follows (inner : Inner room deeper D) {rounds : ι → Nat}
    (le : ∀ i, room i ≤ bounds i) (le' : ∀ i, room i ≤ rounds i) (precedence : Precedence)
    (left : Expr) (c : Cursor) :
    FollowsAt endKind 0 room (climb deeper rounds' precedence bound left)
      (fun i => climb (D i) (rounds i) precedence (bounds i) left) c := by
  induction bound generalizing room bounds left c with
  | zero => exact .silent not_lives_tooDeep
  | succ bound ih =>
    have rest : ∀ i, room i - 1 ≤ bounds i - 1 := fun i => Nat.sub_le_sub_right (le i) 1
    have spent : ∀ i, room i ≤ room i - 1 + 1 := fun i => by omega
    have fewer : ∀ i, room i - 1 ≤ room i := fun i => Nat.sub_le _ _
    have climbs := fun left d => ih (inner.shrink fewer) rest
      (fun i => Nat.le_trans (fewer i) (le' i)) left d
    have done : ∀ left next, endKind next → Takes (fun i => room i - 1)
        (fun i => climb (D i) (rounds i) precedence (bounds i - 1) left) [] next left :=
      fun left next ended => climb_takes rest (TokenKind.endsAt_of_ends ended) left
    by_cases stops : c.current.kind.endsAt precedence = true
    · refine .stays (climb_stops stops (Nat.succ_pos _)) fun next ended => climb_takes le ?_ left
      rcases ended with rfl | ended
      · exact stops
      · exact TokenKind.endsAt_of_ends ended
    refine .unfold ?_ fun i left' =>
      congrArg (climb (D i) (rounds i) precedence · left) (round_left le i left')
    by_cases bang : c.current.kind = .bang
    · have passes : FollowsAt endKind 1 room
          (advance >>= fun _ => climb deeper rounds' precedence bound
            (.combination ⟨.factorial, .postfixed⟩ (some left) none))
          (fun i => advance >>= fun _ => climb (D i) (rounds i) precedence (bounds i - 1)
            (.combination ⟨.factorial, .postfixed⟩ (some left) none)) c :=
        .advance (by simp [bang]) (fun _ _ _ _ _ _ => Iff.rfl) (climbs _)
          (fun _ => ⟨[], _, nofun, Nat.le_refl 0, done _⟩) spent
      refine (passes.like (run_climb_bang bang) ?_ Nat.one_pos).fewer (Nat.zero_le 1)
      intro i c' _ shown a d
      rw [Yields, run_climb_bang ((kind_eq shown).trans bang), Yields]
    cases unbound : c.current.kind.binding? with
    | none =>
      have continues : c.current.kind.endsExpression ≠ true := fun ends =>
        stops (TokenKind.endsAt_of_ends ends)
      refine .rejected (run_climb_fail _ _ _ _ _ continues bang unbound) fun i c' shown a d => ?_
      have kind := kind_eq shown
      obtain ⟨cause, failed⟩ := run_climb_fail (D i) (rounds i) (bounds i - 1) precedence left
        (kind ▸ continues) (kind ▸ bang) (kind ▸ unbound)
      rw [Yields, failed]
      exact not_yields_fail
    | some binding =>
      obtain ⟨symbol, found, strength⟩ := Option.bind_eq_some_iff.mp unbound
      have strong : ¬binding.level ≤ precedence.level := fun weak =>
        stops (TokenKind.endsAt_of_weak found strength weak)
      have inside : c.current.kind ≠ .endOfInput := by
        intro ended
        rw [ended] at found
        cases found
      by_cases call : symbol = .call
      · subst call
        have passes := climb_call_follows rounds' inner le' inside
          (fun es d => climbs (.call left es) d) (fun es => ⟨_, done (.call left es)⟩) spent
        refine (passes.like (run_climb_infixed found strength strong) ?_ Nat.one_pos).fewer
          (Nat.zero_le 1)
        intro i c' _ shown a d
        rw [Yields, run_climb_infixed ((kind_eq shown).symm ▸ found) strength strong, Yields]
        rfl
      · have passes := climb_operand_follows inner inside binding
          (fun right d => climbs (.combination ⟨symbol, .infixed⟩ (some left) (some right)) d)
          (fun right => ⟨_, done (.combination ⟨symbol, .infixed⟩ (some left) (some right))⟩) spent
        refine (passes.like ?_ ?_ (by omega)).fewer (by omega)
        · rw [run_climb_infixed found strength strong, if_neg call]
        intro i c' _ shown a d
        rw [Yields, run_climb_infixed ((kind_eq shown).symm ▸ found) strength strong, if_neg call,
          Yields]

theorem undefined_takes {nestings : ι → Nat} (some : ∀ i, 1 ≤ nestings i) (precedence : Precedence)
    (ended : endKind next) : Takes bounds (fun i => expression (bounds i) (nestings i) precedence)
      [⟨.undefinedWord, "undefined"⟩] next .undefined := by
  intro i c d fits passed found
  have one := some i
  have read : Reading.Expression precedence [⟨.undefinedWord, "undefined"⟩] d.current.kind
      .undefined := .intro .undefinedWord (.done (found ▸ TokenKind.endsAt_of_ends ended))
  rw [List.length_singleton] at fits
  exact expression_complete passed read (by rw [List.length_singleton]; omega)

/-- Expressions follow the words, and with some nesting left `undefined` is one. -/
theorem expression_inner {nestings : ι → Nat} (nests : ∀ i, nesting ≤ nestings i) :
    Inner bounds (expression bound nesting) (fun i => expression (bounds i) (nestings i)) := by
  induction nesting generalizing nestings with
  | zero =>
    exact ⟨fun _ _ => .silent not_lives_tooDeep, fun lives => absurd lives not_lives_tooDeep⟩
  | succ nesting ih =>
    have inner : Inner bounds (expression bound nesting)
        (fun i => expression (bounds i) (nestings i - 1)) :=
      ih fun i => Nat.le_sub_one_of_lt (nests i)
    have unfolded : ∀ precedence i, 0 < bounds i → expression (bounds i) (nestings i) precedence =
        expression (bounds i) (nestings i - 1 + 1) precedence := fun precedence i _ => by
      rw [Nat.sub_add_cancel (Nat.one_le_of_lt (nests i))]
    refine ⟨fun precedence c => .unfold ?_ (unfolded precedence), fun {precedence _} _ => ?_⟩
    · simp only [expression]
      refine ((operand_follows inner (fun _ => Nat.le_refl _) c).bind (fun left d _ => ?_)
        (fun _ left => ?_) (fun _ => Nat.le_succ _) (.inr fun _ => id)).fewer (Nat.le_add_right 1 0)
      · exact climb_follows inner (fun _ => Nat.le_refl _) (fun _ => Nat.le_refl _) precedence
          left d
      · exact ⟨[], left, by simp, Nat.le_refl 0, fun next ended =>
          ⟨ended, climb_takes (fun _ => Nat.le_refl _) (TokenKind.endsAt_of_ends ended) left⟩⟩
    · exact ⟨[⟨.undefinedWord, "undefined"⟩], .undefined, by simp, Nat.le_refl 1, fun next ended =>
        undefined_takes (fun i => Nat.one_le_of_lt (nests i)) precedence ended⟩

end

end Parser

end PiecewiseLang
