import PiecewiseLang.Proofs.Parsing.Segments

/-! Parsing does not depend on when tokens are drawn. Two cursors may have their tokens from
different supplies, one from a text that is scanned while it is parsed and the other from a list;
as long as both show the same tokens, a parser does the same at both of them. This holds although
the loops of the parser are given different bounds, since either bound is above the number of
tokens that are left. Where the tokens come to a fault, the parser meets that fault or stops
before it with an error, and it never adds a fault of its own. A parser that may have more
expressions open does the same as well, unless the nesting stops the one that may have fewer. -/
namespace PiecewiseLang

namespace Cursor

/-- Both cursors show the same tokens, as many as counted before the end of input or else up to
one behind which the given fault is met. All of them are such as a scanner gives. -/
inductive Alike : Option Fault → Nat → Cursor → Cursor → Prop where
  | ended : c.current.kind = .endOfInput → d.current = c.current → Alike none 0 c d
  | broken : c.current.word.Lexical → d.current = c.current →
      c.advance = .error (.fault fault) → d.advance = .error (.fault fault) →
      Alike (some fault) 1 c d
  | more : c.current.word.Lexical → d.current = c.current → c.advance = .ok c' →
      d.advance = .ok d' → Alike fault? count c' d' → Alike fault? (count + 1) c d

namespace Alike

theorem current_eq (alike : Alike fault? count c d) : d.current = c.current := by
  cases alike <;> assumption

theorem kind_eq (alike : Alike fault? count c d) : d.current.kind = c.current.kind := by
  rw [alike.current_eq]

theorem lexical (alike : Alike fault? count c d) (inside : c.current.kind ≠ .endOfInput) :
    c.current.word.Lexical := by
  cases alike with
  | ended ended => exact absurd ended inside
  | broken lexical => exact lexical
  | more lexical => exact lexical

/-- A cursor that passes scanned words up to the end of input is like itself. -/
theorem of_passes (passed : c.Passes words d) (ended : d.current.kind = .endOfInput)
    (lexical : ∀ w ∈ words, w.Lexical) : Alike none words.length c c := by
  induction passed with
  | done => exact .ended ended rfl
  | step inside advanced _ ih =>
    have here := lexical _ (List.mem_cons_self ..)
    exact .more here rfl advanced advanced
      (ih ended fun w member => lexical w (List.mem_cons_of_mem _ member))

end Alike

end Cursor

open Cursor

namespace Parser

theorem run_advance_bind (f : Token → Parser α) (c : Cursor) :
    (advance >>= f).run c = Except.bind c.advance fun d => (f c.current).run d := by
  change Except.bind (Except.bind (Except.bind c.advance fun m => .ok (m, c))
    fun result => .ok (c.current, result.1)) (fun result => (f result.1).run result.2) = _
  cases c.advance <;> rfl

/-- Two runs end alike: with the same error, with the fault that the tokens come to, or with the
same result before the same tokens, fewer than `most`. Where the second has nesting to `spare`,
it may end in any way once the first is stopped for its nesting. -/
inductive EndsAlike (spare : Prop) (fault? : Option Fault) (most : Nat) :
    Except ParseFailure (α × Cursor) → Except ParseFailure (α × Cursor) → Prop where
  | cut {result : Except ParseFailure (α × Cursor)} : spare →
      EndsAlike spare fault? most (.error (.error ⟨.nestedTooDeeply, position⟩)) result
  | error : EndsAlike spare fault? most (.error (.error e)) (.error (.error e))
  | fault : fault? = some fault →
      EndsAlike spare fault? most (.error (.fault fault)) (.error (.fault fault))
  | ok : Alike fault? count c d → count < most →
      EndsAlike spare fault? most (.ok (a, c)) (.ok (a, d))

/-- The parsers do the same at the two cursors. -/
def Agree (spare : Prop) (fault? : Option Fault) (most : Nat) (p : Parser α) (c : Cursor)
    (q : Parser α) (d : Cursor) : Prop :=
  EndsAlike spare fault? most (p.run c) (q.run d)

namespace Agree

variable {spare : Prop} {fault? : Option Fault} {count most : Nat} {c d : Cursor}
  {p q : Parser α}

theorem like {p' q' : Parser α} (agree : Agree spare fault? most p' c q' d)
    (same : p.run c = p'.run c) (same' : q.run d = q'.run d) :
    Agree spare fault? most p c q d := by
  rw [Agree, same, same']
  exact agree

theorem pure (alike : Alike fault? count c d) (fewer : count < most) (a : α) :
    Agree spare fault? most (pure a) c (pure a) d := .ok alike fewer

theorem fail (cause : ParseError.Cause) (position : Int) :
    Agree spare fault? most (fail cause position : Parser α) c (Parser.fail cause position) d := .error

theorem bind {f g : α → Parser β} (first : Agree spare fault? count p c q d)
    (rest : ∀ a {left c' d'}, Alike fault? left c' d' → left < count →
      Agree spare fault? most (f a) c' (g a) d') :
    Agree spare fault? most (p >>= f) c (q >>= g) d := by
  change EndsAlike spare fault? most (Except.bind (p.run c) fun result => (f result.1).run result.2)
    (Except.bind (q.run d) fun result => (g result.1).run result.2)
  unfold Agree at first
  generalize p.run c = ran, q.run d = ran' at first
  cases first with
  | cut more => exact .cut more
  | error => exact .error
  | fault found => exact .fault found
  | ok alike fewer => exact rest _ alike fewer

theorem map (agree : Agree spare fault? most p c q d) (make : α → β) :
    Agree spare fault? most (p >>= fun a => Pure.pure (make a)) c
      (q >>= fun a => Pure.pure (make a)) d :=
  agree.bind fun _ _ _ _ alike fewer => .pure alike fewer _

theorem peek {f g : Token → Parser α} (alike : Alike fault? count c d)
    (rest : Agree spare fault? most (f c.current) c (g c.current) d) :
    Agree spare fault? most (peek >>= f) c (Parser.peek >>= g) d :=
  rest.like (run_peek f c) ((run_peek g d).trans (by rw [alike.current_eq]))

/-- Passing a token leaves fewer. The end of input is not passed. -/
theorem advance {f g : Token → Parser α} (alike : Alike fault? count c d)
    (inside : c.current.kind ≠ .endOfInput)
    (rest : ∀ {left c' d'}, Alike fault? left c' d' → left < count →
      Agree spare fault? most (f c.current) c' (g c.current) d') :
    Agree spare fault? most (advance >>= f) c (Parser.advance >>= g) d := by
  rw [Agree, run_advance_bind, run_advance_bind, alike.current_eq]
  cases alike with
  | ended ended => exact absurd ended inside
  | broken _ _ broke broke' =>
    rw [broke, broke']
    exact .fault rfl
  | more _ _ advanced advanced' alike =>
    rw [advanced, advanced']
    exact rest alike (Nat.lt_succ_self _)

theorem tooDeep (alike : Alike fault? count c d) :
    Agree spare fault? most (tooDeep : Parser α) c Parser.tooDeep d := .peek alike (.fail _ _)

theorem reject (alike : Alike fault? count c d) (what : Expectation) :
    Agree spare fault? most (reject what : Parser α) c (Parser.reject what) d := .peek alike (.fail _ _)

/-- A choice on the kind of the token in view, which is passed if it is that kind. -/
theorem accept {f g : Bool → Parser α} (alike : Alike fault? count c d) (kind : TokenKind)
    (other : kind ≠ .endOfInput)
    (passed : c.current.kind = kind → ∀ {left c' d'}, Alike fault? left c' d' → left < count →
      Agree spare fault? most (f true) c' (g true) d')
    (stayed : c.current.kind ≠ kind → Agree spare fault? most (f false) c (g false) d) :
    Agree spare fault? most (accept kind >>= f) c (Parser.accept kind >>= g) d := by
  rw [Agree, run_accept, run_accept, alike.kind_eq]
  by_cases found : c.current.kind = kind
  · rw [if_pos found, if_pos found]
    exact advance alike (found ▸ other) (passed found)
  · rw [if_neg found, if_neg found]
    exact stayed found

theorem expect {f g : Token → Parser α} (alike : Alike fault? count c d) (kind : TokenKind)
    (other : kind ≠ .endOfInput) (what : Expectation)
    (passed : ∀ {left c' d'}, Alike fault? left c' d' → left < count →
      Agree spare fault? most (f c.current) c' (g c.current) d') :
    Agree spare fault? most (expect kind what >>= f) c (Parser.expect kind what >>= g) d := by
  rw [Agree, run_expect, run_expect, alike.kind_eq]
  by_cases found : c.current.kind = kind
  · rw [if_pos found, if_pos found]
    exact advance alike (found ▸ other) passed
  · rw [if_neg found, if_neg found]
    exact reject alike what

theorem separator {closing : TokenKind} {what : Expectation} {p q : Parser α}
    (alike : Alike fault? count c d)
    (rest : ∀ {left c' d'}, Alike fault? left c' d' → left ≤ count →
      Agree spare fault? most p c' q d') :
    Agree spare fault? most (separator closing what >>= fun _ => p) c
      (Parser.separator closing what >>= fun _ => q) d := by
  rw [Agree, run_separator, run_separator, alike.kind_eq]
  by_cases comma : c.current.kind = .comma
  · rw [if_pos comma, if_pos comma]
    exact advance alike (by simp [comma]) fun alike fewer => rest alike (Nat.le_of_lt fewer)
  rw [if_neg comma, if_neg comma]
  by_cases closes : c.current.kind = closing
  · rw [if_pos closes, if_pos closes]
    exact rest alike (Nat.le_refl _)
  · rw [if_neg closes, if_neg closes]
    exact reject alike what

end Agree

/-- The parsers for the expressions inside do the same at cursors that are alike and have fewer
tokens before them than `limit`, and each leaves fewer. -/
def InnerAgree (spare : Prop) (fault? : Option Fault) (limit : Nat)
    (deeper deeper' : Precedence → Parser Expr) : Prop :=
  ∀ precedence {count c d}, Alike fault? count c d → count < limit →
    Agree spare fault? count (deeper precedence) c (deeper' precedence) d

section
variable {spare : Prop} {fault? : Option Fault} {limit count most : Nat} {c d : Cursor}
  {deeper deeper' : Precedence → Parser Expr}

theorem arguments_agree (inner : InnerAgree spare fault? limit deeper deeper')
    (alike : Alike fault? count c d) (fits : count < limit) (fewer : count < most)
    (enough : count < bound) (enough' : count < bound') :
    Agree spare fault? most (arguments deeper bound) c (arguments deeper' bound') d := by
  induction bound generalizing bound' count c d with
  | zero => omega
  | succ bound ih =>
    obtain ⟨bound', rfl⟩ := Nat.exists_eq_succ_of_ne_zero (Nat.ne_zero_of_lt enough')
    simp only [arguments]
    refine .accept alike _ (by decide) (fun _ _ _ _ alike less => .pure alike (by omega) []) ?_
    intro _
    refine .bind (inner .lowest alike fits) fun first _ _ _ alike less => ?_
    refine .separator alike fun alike le => ?_
    exact (ih alike (by omega) (by omega) (by omega) (by omega)).map _

theorem members_agree (inner : InnerAgree spare fault? limit deeper deeper')
    (alike : Alike fault? count c d) (fits : count < limit) (fewer : count < most)
    (enough : count < bound) (enough' : count < bound') :
    Agree spare fault? most (members deeper bound) c (members deeper' bound') d := by
  induction bound generalizing bound' count c d with
  | zero => omega
  | succ bound ih =>
    obtain ⟨bound', rfl⟩ := Nat.exists_eq_succ_of_ne_zero (Nat.ne_zero_of_lt enough')
    simp only [members]
    refine .accept alike _ (by decide) (fun _ _ _ _ alike less => .pure alike (by omega) []) ?_
    intro _
    refine .expect alike _ (by decide) _ fun alike less => ?_
    refine .accept alike _ (by decide) (fun _ _ _ _ alike less => .pure alike (by omega) []) ?_
    intro _
    refine .bind (inner .lowest alike (by omega)) fun first _ _ _ alike less => ?_
    exact (ih alike (by omega) (by omega) (by omega) (by omega)).map _

theorem guardOf_agree (inner : InnerAgree spare fault? limit deeper deeper')
    (alike : Alike fault? count c d) (fits : count < limit) (fewer : count < most)
    (seenElse : Bool) :
    Agree spare fault? most (guardOf deeper seenElse) c (guardOf deeper' seenElse) d := by
  unfold guardOf
  refine .peek alike (.accept alike _ (by decide) (fun _ _ _ _ alike less => ?_) fun _ => ?_)
  · refine .bind (inner .lowest alike (by omega)) fun e _ _ _ alike less => ?_
    exact .pure alike (by omega) _
  refine .accept alike _ (by decide) (fun _ _ _ _ alike less => ?_) fun _ => .reject alike _
  cases seenElse with
  | false => exact .pure alike (by omega) _
  | true => exact .fail _ _

theorem arms_agree (inner : InnerAgree spare fault? limit deeper deeper')
    (alike : Alike fault? count c d) (fits : count < limit) (fewer : count < most)
    (enough : count < bound) (enough' : count < bound') (seenElse : Bool) (value : Expr) :
    Agree spare fault? most (arms deeper bound seenElse value) c
      (arms deeper' bound' seenElse value) d := by
  induction bound generalizing bound' count c d seenElse value with
  | zero => omega
  | succ bound ih =>
    obtain ⟨bound', rfl⟩ := Nat.exists_eq_succ_of_ne_zero (Nat.ne_zero_of_lt enough')
    simp only [arms]
    refine .bind (guardOf_agree inner alike fits (Nat.lt_succ_self _) seenElse)
      fun guard _ _ _ alike less => ?_
    refine .expect alike _ (by decide) _ fun alike less => ?_
    refine .accept alike _ (by decide) (fun _ _ _ _ alike less => .pure alike (by omega) _) ?_
    intro _
    refine .bind (inner .lowest alike (by omega)) fun next _ _ _ alike less => ?_
    exact (ih alike (by omega) (by omega) (by omega) (by omega) _ next).map _

theorem braceChoice_agree (inner : InnerAgree spare fault? limit deeper deeper')
    (alike : Alike fault? count c d) (fits : count < limit) (fewer : count < most)
    (enough : count < bound) (enough' : count < bound') (opening : Int) (first : Expr) :
    Agree spare fault? most (braceChoice deeper bound opening first) c
      (braceChoice deeper' bound' opening first) d := by
  rw [Agree, run_braceChoice, run_braceChoice, alike.kind_eq]
  split
  · exact (arms_agree inner alike fits fewer enough enough' false first).map _
  split
  · exact (members_agree inner alike fits fewer enough enough').map _
  · exact Agree.reject alike _

theorem brace_agree (inner : InnerAgree spare fault? limit deeper deeper')
    (alike : Alike fault? count c d) (opens : c.current.kind = .leftBrace) (fits : count < limit)
    (enough : limit ≤ bound) (enough' : limit ≤ bound') :
    Agree spare fault? count (brace deeper bound) c (brace deeper' bound') d := by
  rw [brace_eq, brace_eq]
  refine .advance alike (by simp [opens]) fun alike less => ?_
  refine .accept alike _ (by decide) (fun _ _ _ _ alike less => .pure alike (by omega) _) ?_
  intro _
  refine .bind (inner .lowest alike (by omega)) fun first _ _ _ alike less => ?_
  exact braceChoice_agree inner alike (by omega) (by omega) (by omega) (by omega) _ first

/-- An operand of one token. -/
theorem single_agree (alike : Alike fault? count c d) (inside : c.current.kind ≠ .endOfInput)
    (e : Expr) : Agree spare fault? count (advance >>= fun _ => pure e) c
      (advance >>= fun _ => pure e) d :=
  .advance alike inside fun alike less => .pure alike less e

/-- An expression after the token in view, and a closing token. -/
theorem enclosed_agree (inner : InnerAgree spare fault? limit deeper deeper')
    (alike : Alike fault? count c d) (inside : c.current.kind ≠ .endOfInput) (fits : count < limit)
    (closing : TokenKind) (other : closing ≠ .endOfInput) (what : Expectation)
    (make : Expr → Expr) :
    Agree spare fault? count (do
      let _ ← advance
      let e ← deeper .lowest
      let _ ← expect closing what
      return make e) c (do
      let _ ← advance
      let e ← deeper' .lowest
      let _ ← expect closing what
      return make e) d := by
  refine .advance alike inside fun alike less => ?_
  refine .bind (inner .lowest alike (by omega)) fun e _ _ _ alike less => ?_
  exact .expect alike _ other _ fun alike less => .pure alike (by omega) _

theorem operand_agree (inner : InnerAgree spare fault? limit deeper deeper')
    (alike : Alike fault? count c d) (fits : count < limit) (enough : limit ≤ bound)
    (enough' : limit ≤ bound') :
    Agree spare fault? count (operand deeper bound) c (operand deeper' bound') d := by
  refine .peek alike ?_
  split
  case h_1 kind => exact single_agree alike (by simp [kind]) _
  case h_2 kind =>
    have inside : c.current.kind ≠ .endOfInput := by simp [kind]
    obtain ⟨n, -, read⟩ : ∃ n : Nat, n ≤ Lexeme.integerMax ∧
        Text.readInteger c.current.text = some (n : Int) := by
      simpa [Word.Lexical, kind] using alike.lexical inside
    simp only [literal, read, pure_bind]
    exact single_agree alike inside _
  case h_3 kind =>
    have inside : c.current.kind ≠ .endOfInput := by simp [kind]
    obtain ⟨x, -, read⟩ : ∃ x : Binary64, x.negative = false ∧
        Double.read? c.current.text = some (.finite x) := by
      simpa [Word.Lexical, kind] using alike.lexical inside
    simp only [literal, read, pure_bind]
    exact single_agree alike inside _
  case h_4 kind => exact single_agree alike (by simp [kind]) _
  case h_5 kind => exact single_agree alike (by simp [kind]) _
  case h_6 kind => exact single_agree alike (by simp [kind]) _
  case h_7 kind => exact enclosed_agree inner alike (by simp [kind]) fits _ (by decide) _ id
  case h_8 kind => exact enclosed_agree inner alike (by simp [kind]) fits _ (by decide) _ _
  case h_9 kind => exact brace_agree inner alike kind fits enough enough'
  case h_10 =>
    split
    case h_1 symbol found =>
      have inside : c.current.kind ≠ .endOfInput := by
        rintro ended
        rw [ended] at found
        cases found
      refine .advance alike inside fun alike less => ?_
      refine .bind (inner .unary alike (by omega)) fun e _ _ _ alike less => ?_
      exact .pure alike (by omega) _
    case h_2 => exact .fail _ _

theorem climb_agree (inner : InnerAgree spare fault? limit deeper deeper')
    (alike : Alike fault? count c d) (fits : count < limit) (fewer : count < most)
    (rounds : limit ≤ bound) (rounds' : limit ≤ bound') (enough : count < more)
    (enough' : count < more') (precedence : Precedence) (left : Expr) :
    Agree spare fault? most (climb deeper bound precedence more left) c
      (climb deeper' bound' precedence more' left) d := by
  induction more generalizing more' count c d left with
  | zero => omega
  | succ more ih =>
    obtain ⟨more', rfl⟩ := Nat.exists_eq_succ_of_ne_zero (Nat.ne_zero_of_lt enough')
    simp only [climb]
    refine .peek alike ?_
    split
    case isTrue => exact .pure alike fewer left
    case isFalse continues =>
      have inside : c.current.kind ≠ .endOfInput := by
        intro ended
        rw [ended] at continues
        exact continues rfl
      split
      case isTrue =>
        refine .advance alike inside fun alike less => ?_
        exact ih alike (by omega) (by omega) (by omega) (by omega) _
      case isFalse =>
        split
        case h_1 => exact .fail _ _
        case h_2 symbol _ =>
          split
          case h_1 => exact .fail _ _
          case h_2 binding _ =>
            split
            case isTrue => exact .pure alike fewer left
            case isFalse =>
              refine .advance alike inside fun alike less => ?_
              split
              case isTrue =>
                refine .bind (arguments_agree inner alike (by omega) (Nat.lt_succ_self _)
                  (by omega) (by omega)) fun es _ _ _ alike less => ?_
                exact ih alike (by omega) (by omega) (by omega) (by omega) _
              case isFalse =>
                refine .bind (inner binding alike (by omega)) fun right _ _ _ alike less => ?_
                exact ih alike (by omega) (by omega) (by omega) (by omega) _

theorem expression_agree (enough : limit ≤ bound) (enough' : limit ≤ bound')
    (le : nesting ≤ nesting') (more : nesting < nesting' → spare) :
    InnerAgree spare fault? limit (expression bound nesting) (expression bound' nesting') := by
  induction nesting generalizing nesting' with
  | zero =>
    intro precedence count c d alike fits
    cases nesting' with
    | zero => exact .tooDeep alike
    | succ => exact .cut (more (Nat.succ_pos _))
  | succ nesting ih =>
    obtain ⟨nesting', rfl⟩ := Nat.exists_eq_succ_of_ne_zero (Nat.ne_zero_of_lt le)
    have inner := ih (Nat.le_of_succ_le_succ le) fun less => more (Nat.succ_lt_succ less)
    intro precedence count c d alike fits
    simp only [expression]
    refine .bind (operand_agree inner alike fits enough enough') fun left _ _ _ alike less => ?_
    exact climb_agree inner alike (by omega) less enough enough' (by omega) (by omega) _ left

theorem parameters_agree (alike : Alike fault? count c d) (fewer : count < most)
    (enough : count < bound) (enough' : count < bound') (function : String)
    (before : List String) :
    Agree spare fault? most (parameters function bound before) c
      (parameters function bound' before) d := by
  induction bound generalizing bound' count c d before with
  | zero => omega
  | succ bound ih =>
    obtain ⟨bound', rfl⟩ := Nat.exists_eq_succ_of_ne_zero (Nat.ne_zero_of_lt enough')
    simp only [parameters]
    refine .accept alike _ (by decide) (fun _ _ _ _ alike less => .pure alike (by omega) _) ?_
    intro _
    refine .expect alike _ (by decide) _ fun alike less => ?_
    split
    case isTrue => exact .fail _ _
    case isFalse =>
      exact .separator alike fun alike le => ih alike (by omega) (by omega) (by omega) _

/-- The end of a statement after the sign before its last expression. -/
theorem body_agree (inner : InnerAgree spare fault? limit deeper deeper')
    (alike : Alike fault? count c d) (fits : count < limit) (fewer : count < most)
    (sign what : Expectation) (make : Expr → Statement) :
    Agree spare fault? most (do
      let _ ← expect .assign sign
      let e ← deeper .lowest
      let _ ← expect .semicolon what
      return make e) c (do
      let _ ← expect .assign sign
      let e ← deeper' .lowest
      let _ ← expect .semicolon what
      return make e) d := by
  refine .expect alike _ (by decide) _ fun alike less => ?_
  refine .bind (inner .lowest alike (by omega)) fun e _ _ _ alike less => ?_
  exact .expect alike _ (by decide) _ fun alike less => .pure alike (by omega) _

theorem statement_agree (alike : Alike fault? count c d) (fits : count < limit)
    (enough : limit ≤ bound) (enough' : limit ≤ bound') (le : nesting ≤ nesting')
    (more : nesting < nesting' → spare) :
    Agree spare fault? count (statement bound nesting) c (statement bound' nesting') d := by
  have inner : InnerAgree spare fault? limit (expression bound nesting)
      (expression bound' nesting') := expression_agree enough enough' le more
  rw [Agree, run_statement, run_statement, alike.kind_eq]
  split
  case isTrue letWord =>
    refine Agree.advance alike (by simp [letWord]) fun alike less => ?_
    refine .expect alike _ (by decide) _ fun alike less => ?_
    exact body_agree inner alike (by omega) (by omega) _ _ _
  split
  case isTrue fnWord =>
    refine Agree.advance alike (by simp [fnWord]) fun alike less => ?_
    refine .expect alike _ (by decide) _ fun alike less => ?_
    refine .expect alike _ (by decide) _ fun alike less => ?_
    refine .bind (parameters_agree alike (Nat.lt_succ_self _) (by omega) (by omega) _ [])
      fun names _ _ _ alike less => ?_
    exact body_agree inner alike (by omega) (by omega) _ _ _
  case isFalse =>
    refine Agree.bind (inner .lowest alike fits) fun e _ _ _ alike less => ?_
    exact .expect alike _ (by decide) _ fun alike less => .pure alike (by omega) _

theorem statements_agree (alike : Alike fault? count c d) (fits : count < limit)
    (fewer : count < most) (enough : limit ≤ bound) (enough' : limit ≤ bound')
    (rounds : count < total) (rounds' : count < total') (le : nesting ≤ nesting')
    (more : nesting < nesting' → spare) :
    Agree spare fault? most (statements bound nesting total) c
      (statements bound' nesting' total') d := by
  induction total generalizing total' count c d with
  | zero => omega
  | succ total ih =>
    obtain ⟨total', rfl⟩ := Nat.exists_eq_succ_of_ne_zero (Nat.ne_zero_of_lt rounds')
    simp only [statements]
    refine .peek alike ?_
    split
    case isTrue => exact .pure alike fewer []
    case isFalse =>
      refine .bind (statement_agree alike fits enough enough' le more)
        fun first _ _ _ alike less => ?_
      exact (ih alike (by omega) (by omega) (by omega) (by omega)).map _

end

end Parser

open PiecewiseLang.Parser

/-- The fault that the tokens come to is the only one that parsing can meet. With more nesting
allowed, parsing comes to the same, unless it was stopped for its nesting. -/
theorem parseTokens_agree {supply supply' : Supply} (started : Cursor.start supply = .ok c)
    (started' : Cursor.start supply' = .ok d) (alike : Alike fault? count c d)
    (le : count ≤ supply.size) (le' : count ≤ supply'.size) (allowed : nesting ≤ nesting') :
    (parseTokens nesting supply = parseTokens nesting' supply' ∨ nesting < nesting' ∧
        ∃ position, parseTokens nesting supply = .error (.error ⟨.nestedTooDeeply, position⟩)) ∧
      ∀ fault, parseTokens nesting supply = .error (.fault fault) → fault? = some fault := by
  have agree : Agree (nesting < nesting') fault? (count + 1)
      (statements (loopBound supply) nesting (loopBound supply)) c
      (statements (loopBound supply') nesting' (loopBound supply')) d := by
    apply statements_agree alike (Nat.lt_succ_self count) (Nat.lt_succ_self count) _ _ _ _ allowed id
      <;> simp only [loopBound] <;> omega
  unfold Agree at agree
  simp only [parseTokens, started, started', bind, Except.bind]
  generalize (statements (loopBound supply) nesting (loopBound supply)).run c = ran,
    (statements (loopBound supply') nesting' (loopBound supply')).run d = ran' at agree
  cases agree with
  | cut more =>
    refine ⟨.inr ⟨more, _, rfl⟩, fun fault same => ?_⟩
    cases same
  | error =>
    refine ⟨.inl rfl, fun fault same => ?_⟩
    cases same
  | fault found =>
    refine ⟨.inl rfl, fun fault same => ?_⟩
    cases same
    exact found
  | ok =>
    refine ⟨.inl rfl, fun fault same => ?_⟩
    cases same

end PiecewiseLang
