import PiecewiseLang.Proofs.Parsing.Following.Expression

/-! Statements and programs follow the words they see. A statement ends with its semicolon, so
it is read in the same way before any token; a program is read up to the end of input. -/
namespace PiecewiseLang

open Cursor

namespace Parser

variable {ι : Type} {room bounds : ι → Nat} {c : Cursor}

theorem parameters_takes (le : ∀ i, room i ≤ bounds i) (function : String) (before : List String)
    (next : TokenKind) : Takes room (fun i => parameters function (bounds i) before)
      [⟨.rightParen, ")"⟩] next before := by
  refine .unfold ?_ fun i left => congrArg (parameters function · before) (round_left le i left)
  exact takes_accept (takes_pure before next)

theorem parameters_follows (le : ∀ i, room i ≤ bounds i) (function : String)
    (before : List String) (c : Cursor) : FollowsAt anyKind 1 room
      (parameters function bound before) (fun i => parameters function (bounds i) before) c := by
  induction bound generalizing room bounds before c with
  | zero => exact .silent not_lives_tooDeep
  | succ bound ih =>
    refine .unfold ?_ fun i left => congrArg (parameters function · before) (round_left le i left)
    simp only [parameters]
    refine .accept (by decide) (fun d => .pure before) (completes_pure _ _) fun _ => ?_
    simp only [Bool.false_eq_true, if_false]
    have rest : ∀ i, room i - 1 ≤ bounds i - 1 := fun i => Nat.sub_le_sub_right (le i) 1
    have spent : ∀ i, room i ≤ room i - 1 + 1 := fun i => by omega
    by_cases twice : c.current.kind = .name ∧ c.current.text ∈ before
    · -- The error is raised behind the repeated name but stands at it.
      refine .rejectedBehind ⟨.duplicateParameter c.current.text function, ?_⟩
        fun i c' shown => ⟨.duplicateParameter c'.current.text function, ?_⟩
      · rw [run_expect, if_pos twice.1, run_advance, if_pos twice.2]
      · have kind : c'.current.kind = .name := (kind_eq shown).trans twice.1
        have text : c'.current.text ∈ before := text_eq shown ▸ twice.2
        rw [run_expect, if_pos kind, run_advance, if_pos text]
    · have others : ∀ before d, FollowsAt anyKind 1 (fun i => room i - 1)
          (parameters function bound before)
          (fun i => parameters function (bounds i - 1) before) d := fun before d => ih rest before d
      have closes : ∀ before, Completes anyKind 1 (fun i => room i - 1)
          (fun i => parameters function (bounds i - 1) before) [] := fun before =>
        Takes.completes (parameters_takes rest function before) (by simp) (Nat.le_refl 1)
      refine (FollowsAt.expect (by decide) ?_ (fun found d => ?_) (fun found => ?_) spent).fewer
        (Nat.le_succ 1)
      · intro i t t' shown m a e
        have text : t.text = t'.text := congrArg Word.text shown
        rw [text]
        split
        · exact iff_of_false not_yields_fail not_yields_fail
        · exact Iff.rfl
      · simp only [if_neg fun member => twice ⟨found, member⟩]
        exact separator_follows (others _) (closes _) _ _ d
      · simp only [if_neg fun member => twice ⟨found, member⟩]
        exact Takes.completes (fun next =>
          separator_takes (parameters_takes rest function _ next) rfl (by decide))
          (by simp) (Nat.le_refl 1)

section
variable {nestings : ι → Nat}

/-- The end of a statement from its expression on. -/
theorem value_takes (some : ∀ i, 1 ≤ nestings i) (what : Expectation) (make : Expr → Statement)
    (next : TokenKind) : Takes bounds
      (fun i => expression (bounds i) (nestings i) .lowest >>= fun e =>
        expect .semicolon what >>= fun _ => pure (make e))
      [⟨.undefinedWord, "undefined"⟩, ⟨.semicolon, ";"⟩] next (make .undefined) := by
  change Takes bounds _ ([⟨.undefinedWord, "undefined"⟩] ++ [⟨.semicolon, ";"⟩]) next _
  exact Takes.bind (undefined_takes some .lowest rfl) (closing_takes ⟨.semicolon, ";"⟩ what _ next)
    fun _ => Nat.le_add_right _ _

theorem value_follows (nests : ∀ i, nesting ≤ nestings i) (what : Expectation)
    (make : Expr → Statement) (c : Cursor) : FollowsAt anyKind 2 bounds
      (expression bound nesting .lowest >>= fun e =>
        expect .semicolon what >>= fun _ => pure (make e))
      (fun i => expression (bounds i) (nestings i) .lowest >>= fun e =>
        expect .semicolon what >>= fun _ => pure (make e)) c :=
  closed_follows (expression_inner nests) ⟨.semicolon, ";"⟩ rfl (by decide) what make c

/-- The end of a binding from its equals sign on. -/
theorem definition_takes (some : ∀ i, 1 ≤ nestings i) (sign what : Expectation)
    (make : Expr → Statement) (next : TokenKind) : Takes bounds
      (fun i => expect .assign sign >>= fun _ =>
        expression (bounds i) (nestings i) .lowest >>= fun e =>
          expect .semicolon what >>= fun _ => pure (make e))
      [⟨.assign, "="⟩, ⟨.undefinedWord, "undefined"⟩, ⟨.semicolon, ";"⟩] next (make .undefined) :=
  takes_expect fun _ _ => value_takes some what make next

theorem definition_follows (nests : ∀ i, nesting ≤ nestings i) (some : ∀ i, 1 ≤ nestings i)
    (sign what : Expectation) (make : Expr → Statement) (c : Cursor) : FollowsAt anyKind 3 bounds
      (expect .assign sign >>= fun _ => expression bound nesting .lowest >>= fun e =>
        expect .semicolon what >>= fun _ => pure (make e))
      (fun i => expect .assign sign >>= fun _ =>
        expression (bounds i) (nestings i) .lowest >>= fun e =>
          expect .semicolon what >>= fun _ => pure (make e)) c :=
  .expect (by decide) (fun _ _ _ _ _ _ _ => Iff.rfl) (fun _ d => value_follows nests what make d)
    (fun _ => Takes.completes (value_takes some what make) (by simp) (Nat.le_refl 2))
    (fun _ => Nat.le_succ _)

theorem assignment_follows (nests : ∀ i, nesting ≤ nestings i) (some : ∀ i, 1 ≤ nestings i)
    (inside : c.current.kind ≠ .endOfInput) : FollowsAt anyKind 1 bounds
      (assignment bound nesting) (fun i => assignment (bounds i) (nestings i)) c := by
  refine (FollowsAt.advance inside (fun _ _ _ _ _ _ => Iff.rfl) (fun d => ?_) (fun _ => ?_)
    (fun _ => Nat.le_succ _)).fewer (Nat.le_add_left 1 4)
  · refine .expect (by decide) ?_ (fun _ d' => definition_follows nests some _ _ _ d') (fun _ => ?_)
      (fun _ => Nat.le_succ _)
    · intro i t t' shown m a e
      have text : t.text = t'.text := congrArg Word.text shown
      rw [text]
    · exact Takes.completes (definition_takes some _ _ _) (by simp) (Nat.le_refl 3)
  · refine ⟨[⟨.name, "x"⟩, ⟨.assign, "="⟩, ⟨.undefinedWord, "undefined"⟩, ⟨.semicolon, ";"⟩],
      .assignment "x" .undefined, by simp, Nat.le_refl 4, fun next _ => takes_expect ?_⟩
    intro t shown
    have text : t.text = "x" := congrArg Word.text shown
    rw [text]
    exact definition_takes some _ _ _ next

/-- A declaration from its parameters on. -/
theorem signature_takes (some : ∀ i, 1 ≤ nestings i) (function : String) (next : TokenKind) :
    Takes bounds (fun i => do
      let names ← parameters function (bounds i) []
      let _ ← expect .assign (.bodySign function)
      let body ← expression (bounds i) (nestings i) .lowest
      let _ ← expect .semicolon (.endOfDeclaration function)
      return Statement.declaration function names body)
      [⟨.rightParen, ")"⟩, ⟨.assign, "="⟩, ⟨.undefinedWord, "undefined"⟩, ⟨.semicolon, ";"⟩] next
      (.declaration function [] .undefined) := by
  change Takes bounds _ ([⟨.rightParen, ")"⟩] ++
    [⟨.assign, "="⟩, ⟨.undefinedWord, "undefined"⟩, ⟨.semicolon, ";"⟩]) next _
  exact Takes.bind (parameters_takes (fun _ => Nat.le_refl _) function [] .assign)
    (definition_takes some _ _ _ next) fun _ => Nat.le_add_right _ _

theorem signature_follows (nests : ∀ i, nesting ≤ nestings i) (some : ∀ i, 1 ≤ nestings i)
    (function : String) (c : Cursor) : FollowsAt anyKind 4 bounds (do
      let names ← parameters function bound []
      let _ ← expect .assign (.bodySign function)
      let body ← expression bound nesting .lowest
      let _ ← expect .semicolon (.endOfDeclaration function)
      return Statement.declaration function names body) (fun i => do
      let names ← parameters function (bounds i) []
      let _ ← expect .assign (.bodySign function)
      let body ← expression (bounds i) (nestings i) .lowest
      let _ ← expect .semicolon (.endOfDeclaration function)
      return Statement.declaration function names body) c := by
  refine (parameters_follows (fun _ => Nat.le_refl _) function [] c).bind
    (fun names d _ => definition_follows nests some _ _ _ d) (fun _ names => ?_)
    (fun _ => Nat.le_succ _) (.inl (Nat.succ_pos 2))
  exact ⟨[⟨.assign, "="⟩, ⟨.undefinedWord, "undefined"⟩, ⟨.semicolon, ";"⟩], _, by simp,
    Nat.le_refl 3, fun next _ => ⟨trivial, definition_takes some _ _ _ next⟩⟩

theorem declaration_follows (nests : ∀ i, nesting ≤ nestings i) (some : ∀ i, 1 ≤ nestings i)
    (inside : c.current.kind ≠ .endOfInput) : FollowsAt anyKind 1 bounds
      (declaration bound nesting) (fun i => declaration (bounds i) (nestings i)) c := by
  refine (FollowsAt.advance inside (fun _ _ _ _ _ _ => Iff.rfl) (fun d => ?_) (fun _ => ?_)
    (fun _ => Nat.le_succ _)).fewer (Nat.le_add_left 1 6)
  · refine .expect (by decide) ?_ (fun _ d' => ?_) (fun _ => ?_) (fun _ => Nat.le_succ _)
    · intro i t t' shown m a e
      have text : t.text = t'.text := congrArg Word.text shown
      rw [text]
    · refine .expect (by decide) (fun _ _ _ _ _ _ _ => Iff.rfl)
        (fun _ d'' => signature_follows nests some _ d'') (fun _ => ?_) (fun _ => Nat.le_succ _)
      exact Takes.completes (signature_takes some _) (by simp) (Nat.le_refl 4)
    · exact ⟨[⟨.leftParen, "("⟩, ⟨.rightParen, ")"⟩, ⟨.assign, "="⟩, ⟨.undefinedWord, "undefined"⟩,
        ⟨.semicolon, ";"⟩], _, by simp, Nat.le_refl 5,
        fun next _ => takes_expect fun _ _ => signature_takes some _ next⟩
  · refine ⟨[⟨.name, "x"⟩, ⟨.leftParen, "("⟩, ⟨.rightParen, ")"⟩, ⟨.assign, "="⟩,
      ⟨.undefinedWord, "undefined"⟩, ⟨.semicolon, ";"⟩], .declaration "x" [] .undefined, by simp,
      Nat.le_refl 6, fun next _ => takes_expect ?_⟩
    intro t shown
    have text : t.text = "x" := congrArg Word.text shown
    rw [text]
    exact takes_expect fun _ _ => signature_takes some "x" next

theorem run_statement (bound nesting : Nat) (c : Cursor) : (statement bound nesting).run c =
    if c.current.kind = .letWord then (assignment bound nesting).run c
    else if c.current.kind = .fnWord then (declaration bound nesting).run c
    else (expression bound nesting .lowest >>= fun e =>
      expect .semicolon .endOfExpression >>= fun _ => pure (.expression e)).run c := by
  rw [statement, run_peek]
  split
  case h_1 kind => rw [if_pos kind]
  case h_2 kind => rw [if_neg (by simp [kind]), if_pos kind]
  case h_3 notLet notFn => rw [if_neg notLet, if_neg notFn]

theorem statement_follows (nests : ∀ i, nesting ≤ nestings i) (some : ∀ i, 1 ≤ nestings i)
    (c : Cursor) : FollowsAt anyKind 1 bounds (statement bound nesting)
      (fun i => statement (bounds i) (nestings i)) c := by
  by_cases letWord : c.current.kind = .letWord
  · refine (assignment_follows nests some (by simp [letWord])).like
      (by rw [run_statement, if_pos letWord]) ?_ Nat.one_pos
    intro i c' _ shown a d
    rw [Yields, run_statement, if_pos (kind_eq shown ▸ letWord), Yields]
  by_cases fnWord : c.current.kind = .fnWord
  · refine (declaration_follows nests some (by simp [fnWord])).like
      (by rw [run_statement, if_neg letWord, if_pos fnWord]) ?_ Nat.one_pos
    intro i c' _ shown a d
    rw [Yields, run_statement, if_neg (kind_eq shown ▸ letWord), if_pos (kind_eq shown ▸ fnWord),
      Yields]
  · refine ((value_follows nests .endOfExpression .expression c).like
      (by rw [run_statement, if_neg letWord, if_neg fnWord]) ?_ (Nat.succ_pos 1)).fewer
      (Nat.le_succ 1)
    intro i c' _ shown a d
    rw [Yields, run_statement, if_neg (kind_eq shown ▸ letWord), if_neg (kind_eq shown ▸ fnWord),
      Yields]

theorem statements_end (ended : c.current.kind = .endOfInput) :
    (statements bound nesting (count + 1)).Yields c [] c := by
  rw [statements, yields_peek_bind, if_pos ended]
  exact yields_pure.mpr ⟨rfl, rfl⟩

theorem run_statements (inside : c.current.kind ≠ .endOfInput) :
    (statements bound nesting (count + 1)).run c = (statement bound nesting >>= fun first =>
      statements bound nesting count >>= fun others => pure (first :: others)).run c := by
  rw [statements, run_peek, if_neg inside]

theorem statements_takes {counts : ι → Nat} (le : ∀ i, room i ≤ counts i) :
    Takes room (fun i => statements (bounds i) (nestings i) (counts i)) [] .endOfInput [] := by
  intro i c d fits passed ended
  obtain rfl := Passes.nil_iff.mp passed
  show (statements (bounds i) (nestings i) (counts i)).Yields c [] c
  rw [round_left le i fits]
  exact statements_end ended

theorem statements_follows {counts : ι → Nat} (nests : ∀ i, nesting ≤ nestings i)
    (some : ∀ i, 1 ≤ nestings i) (le : ∀ i, room i ≤ bounds i) (le' : ∀ i, room i ≤ counts i)
    (c : Cursor) : FollowsAt (· = .endOfInput) 0 room (statements bound nesting count)
      (fun i => statements (bounds i) (nestings i) (counts i)) c := by
  induction count generalizing room counts c with
  | zero => exact .silent not_lives_tooDeep
  | succ count ih =>
    by_cases ended : c.current.kind = .endOfInput
    · refine .stays (statements_end ended) fun next found => ?_
      obtain rfl : next = .endOfInput := found.elim (·.trans ended) id
      exact statements_takes le'
    refine .unfold ?_ fun i left =>
      congrArg (statements (bounds i) (nestings i)) (round_left le' i left)
    have rest : ∀ i, room i - 1 ≤ counts i - 1 := fun i => Nat.sub_le_sub_right (le' i) 1
    have fewer : ∀ i, room i - 1 ≤ bounds i := fun i => Nat.le_trans (Nat.sub_le _ _) (le i)
    have spent : ∀ i, room i ≤ room i - 1 + 1 := fun i => by omega
    have one : FollowsAt anyKind 1 room (statement bound nesting)
        (fun i => statement (bounds i) (nestings i)) c := (statement_follows nests some c).shrink le
    have passes := one.bind
      (fun first d _ => (ih fewer rest d).map (first :: ·)) (fun _ first => ⟨[], [first], nofun,
        Nat.le_refl 0, fun next ended => ⟨trivial, ended ▸ (statements_takes rest).map _⟩⟩)
      spent (.inr fun _ _ => trivial)
    refine (passes.like (run_statements ended) ?_ (by omega)).fewer (by omega)
    intro i c' _ shown a d
    have inside : c'.current.kind ≠ .endOfInput := fun ended' =>
      ended ((kind_eq shown).symm.trans ended')
    rw [Yields, run_statements inside, Yields]

end

end Parser

end PiecewiseLang
