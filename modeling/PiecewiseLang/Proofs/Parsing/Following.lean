import PiecewiseLang.Proofs.Parsing.Completeness

/-! Parsers follow the words and not the supply they come from. A parser that succeeds does so
again on any cursor that shows the words it passed, and one that fails refuses every input that
agrees with its own up to the offending token. What was passed before that token can be
completed, as the parser was still free to go on. All this is stated of one parser and a family
of others that differ from it in their bounds, where `room` is the number of words that each
of the others can cope with. -/
namespace PiecewiseLang

open Cursor

/-- Drawing tokens meets with faults only. -/
theorem Cursor.fault_of_advance {c : Cursor} {failure : ParseFailure}
    (failed : c.advance = .error failure) : ∃ fault, failure = .fault fault := by
  unfold advance draw at failed
  split at failed
  · cases failed
  · split at failed
    · cases failed
      exact ⟨_, rfl⟩
    · cases failed
    · cases failed

/-- Cursors that show the same word. -/
theorem Cursor.kind_eq {c d : Cursor} (shown : d.current.word = c.current.word) :
    d.current.kind = c.current.kind := congrArg Word.kind shown

theorem Cursor.text_eq {c d : Cursor} (shown : d.current.word = c.current.word) :
    d.current.text = c.current.text := congrArg Word.text shown

namespace Parser

variable {α β ι : Type} {c : Cursor}

/-- The parser fails at the cursor with an error that is not for want of nesting. -/
def Errs (p : Parser α) (c : Cursor) (e : ParseError) : Prop :=
  p.run c = .error (.error e) ∧ e.cause ≠ .nestedTooDeeply

theorem errs_bind {p : Parser α} {f : α → Parser β} :
    Errs (p >>= f) c e ↔ Errs p c e ∨ ∃ a d, Yields p c a d ∧ Errs (f a) d e := by
  change Except.bind (p.run c) (fun result => (f result.1).run result.2) = _ ∧ _ ↔ _
  cases ran : p.run c with
  | error failure => simp [Errs, Yields, ran, Except.bind]
  | ok result =>
    obtain ⟨a, d⟩ := result
    simp [Errs, Yields, ran, Except.bind, and_assoc]

@[simp] theorem not_errs_advance : ¬Errs advance c e := by
  rintro ⟨failed, -⟩
  change Except.bind (Except.bind c.advance fun d => .ok (d, c))
    (fun result => .ok (c.current, result.1)) = _ at failed
  cases advanced : c.advance with
  | ok d =>
    rw [advanced] at failed
    cases failed
  | error failure =>
    obtain ⟨fault, rfl⟩ := fault_of_advance advanced
    rw [advanced] at failed
    cases failed

theorem errs_advance_bind {f : Token → Parser α} :
    Errs (advance >>= f) c e ↔ ∃ d, c.advance = .ok d ∧ Errs (f c.current) d e := by
  simp only [errs_bind, not_errs_advance, false_or, yields_advance]
  constructor
  · rintro ⟨_, d, ⟨rfl, advanced⟩, errs⟩
    exact ⟨d, advanced, errs⟩
  · rintro ⟨d, advanced, errs⟩
    exact ⟨_, d, ⟨rfl, advanced⟩, errs⟩

theorem errs_fail (errs : Errs (fail cause position : Parser α) c e) :
    e.position = some position := by
  cases errs.1
  rfl

@[simp] theorem not_errs_tooDeep : ¬Errs (tooDeep : Parser α) c e := by
  rintro ⟨failed, other⟩
  cases failed
  exact other rfl

theorem run_reject (what : Expectation) (c : Cursor) : (reject what : Parser α).run c =
    (fail (.expected what c.current) c.current.position : Parser α).run c := rfl

/-- The parser neither runs out of nesting at the cursor nor meets a fault. -/
def Lives (p : Parser α) (c : Cursor) : Prop := (∃ a d, p.Yields c a d) ∨ ∃ e, p.Errs c e

theorem Lives.of_bind {p : Parser α} {f : α → Parser β} (lives : (p >>= f).Lives c) :
    p.Lives c := by
  rcases lives with ⟨b, e, run⟩ | ⟨e, errs⟩
  · obtain ⟨a, d, first, -⟩ := yields_bind.mp run
    exact .inl ⟨a, d, first⟩
  · rcases errs_bind.mp errs with errs | ⟨a, d, first, -⟩
    · exact .inr ⟨e, errs⟩
    · exact .inl ⟨a, d, first⟩

theorem Lives.like {p q : Parser α} (lives : p.Lives c) (same : p.run c = q.run c) :
    q.Lives c := by
  rcases lives with ⟨a, d, run⟩ | ⟨e, failed, other⟩
  · exact .inl ⟨a, d, same.symm.trans run⟩
  · exact .inr ⟨e, same.symm.trans failed, other⟩

theorem run_peek (f : Token → Parser α) (c : Cursor) :
    (peek >>= f).run c = (f c.current).run c := rfl

theorem run_advance (f : Token → Parser α) (c : Cursor) :
    (advance >>= f).run c = (advance >>= fun _ => f c.current).run c := by
  have ran : advance.run c = Except.bind c.advance fun d => .ok (c.current, d) := by
    change Except.bind (Except.bind c.advance fun d => .ok (d, c))
      (fun result => .ok (c.current, result.1)) = _
    cases c.advance <;> rfl
  change Except.bind (advance.run c) _ = Except.bind (advance.run c) _
  rw [ran]
  cases c.advance <;> rfl

theorem run_accept (kind : TokenKind) (f : Bool → Parser α) (c : Cursor) :
    (accept kind >>= f).run c = if c.current.kind = kind then (advance >>= fun _ => f true).run c
      else (f false).run c := by
  have looked : (accept kind >>= f).run c = ((if c.current.kind = kind then do
      let _ ← advance
      return true
    else return false : Parser Bool) >>= f).run c := rfl
  rw [looked]
  by_cases same : c.current.kind = kind
  · rw [if_pos same, if_pos same, bind_assoc]
    simp only [pure_bind]
  · rw [if_neg same, if_neg same, pure_bind]

theorem run_expect (kind : TokenKind) (what : Expectation) (f : Token → Parser α) (c : Cursor) :
    (expect kind what >>= f).run c = if c.current.kind = kind then (advance >>= f).run c
      else (reject what : Parser α).run c := by
  have looked : (expect kind what >>= f).run c =
    ((if c.current.kind = kind then advance else reject what) >>= f).run c := rfl
  rw [looked]
  by_cases same : c.current.kind = kind
  · rw [if_pos same, if_pos same]
  · rw [if_neg same, if_neg same]
    rfl

section
variable {room room' : ι → Nat} {P Q : ι → Parser α} {F : ι → α → Parser β}

/-- The parsers read the words before a token of the given kind, as far as there is room. -/
def Takes (room : ι → Nat) (P : ι → Parser α) (words : List Word) (next : TokenKind) (a : α) :
    Prop :=
  ∀ i c d, words.length < room i → c.Passes words d → d.current.kind = next → (P i).Yields c a d

/-- The parsers read nothing where the words are followed by the given one. -/
def Refuses (room : ι → Nat) (P : ι → Parser α) (words : List Word) (w : Word) : Prop :=
  ∀ i c d, words.length < room i → c.Passes words d → d.current.word = w →
    ∀ a e, ¬(P i).Yields c a e

/-- The words can be continued to some that are read before every token in `ends`. -/
def Completes (ends : TokenKind → Prop) (least : Nat) (room : ι → Nat) (P : ι → Parser α)
    (words : List Word) : Prop :=
  ∃ more a, (∀ w ∈ more, w.kind ≠ .endOfInput) ∧ least ≤ (words ++ more).length ∧
    ∀ next, ends next → Takes room P (words ++ more) next a

theorem Takes.shrink (takes : Takes room P words next a) (le : ∀ i, room' i ≤ room i) :
    Takes room' P words next a := fun i c d fits =>
  takes i c d (Nat.lt_of_lt_of_le fits (le i))

/-- The parsers need only be what they are where they have room. -/
theorem Takes.unfold (takes : Takes room Q words next a) (same : ∀ i, 0 < room i → P i = Q i) :
    Takes room P words next a := by
  intro i c d fits
  rw [same i (Nat.zero_lt_of_lt fits)]
  exact takes i c d fits

theorem Takes.bind (first : Takes room P words (headKind more next) a)
    (rest : Takes room' (fun i => F i a) more next b)
    (le : ∀ i, room i ≤ room' i + words.length) :
    Takes room (fun i => P i >>= F i) (words ++ more) next b := by
  intro i c d fits passed ended
  obtain ⟨m, before, after⟩ := Passes.append_iff.mp passed
  rw [List.length_append] at fits
  have enough := le i
  have head : m.current.kind = headKind more next := by rw [after.current_kind, ended]
  exact yields_bind.mpr ⟨a, m, first i c m (by omega) before head,
    rest i m d (by omega) after ended⟩

theorem takes_pure (a : α) (next : TokenKind) : Takes room (fun _ => pure a) [] next a := by
  intro i c d _ passed _
  exact yields_pure.mpr ⟨rfl, Passes.nil_iff.mp passed⟩

theorem Takes.map (takes : Takes room P words next a) (make : α → β) :
    Takes room (fun i => P i >>= fun a => pure (make a)) words next (make a) := by
  intro i c d fits passed ended
  exact yields_bind.mpr ⟨a, d, takes i c d fits passed ended, yields_pure.mpr ⟨rfl, rfl⟩⟩

theorem takes_accept {F : ι → Bool → Parser α}
    (takes : Takes room (fun i => F i true) words next a) :
    Takes room (fun i => accept kind >>= F i) (⟨kind, text⟩ :: words) next a := by
  intro i c d fits passed ended
  obtain ⟨found, -, m, advanced, rest⟩ := passes_word passed
  rw [List.length_cons] at fits
  have run := takes i m d (by omega) rest ended
  exact yields_accept_bind.mpr (.inl ⟨found, m, advanced, run⟩)

theorem takes_expect {F : ι → Token → Parser α}
    (takes : ∀ t, t.word = ⟨kind, text⟩ → Takes room (fun i => F i t) words next a) :
    Takes room (fun i => expect kind what >>= F i) (⟨kind, text⟩ :: words) next a := by
  intro i c d fits passed ended
  obtain ⟨shown, -, m, advanced, rest⟩ := Passes.cons_iff.mp passed
  rw [List.length_cons] at fits
  have run := takes c.current shown i m d (by omega) rest ended
  exact yields_bind.mpr ⟨_, m, yields_expect.mpr ⟨congrArg Word.kind shown, rfl, advanced⟩, run⟩

theorem completes_pure (ends : TokenKind → Prop) (a : α) :
    Completes ends 0 room (fun _ => pure a) [] :=
  ⟨[], a, nofun, Nat.le_refl 0, fun next _ => takes_pure a next⟩

theorem Takes.completes {ends : TokenKind → Prop} (takes : ∀ next, Takes room P words next a)
    (inside : ∀ w ∈ words, w.kind ≠ .endOfInput) (long : least ≤ words.length) :
    Completes ends least room P [] :=
  ⟨words, a, inside, long, fun next _ => takes next⟩

theorem Completes.shrink {ends : TokenKind → Prop} (completes : Completes ends least room P words)
    (le : ∀ i, room' i ≤ room i) : Completes ends least room' P words := by
  obtain ⟨more, a, inside, long, takes⟩ := completes
  exact ⟨more, a, inside, long, fun next ended => (takes next ended).shrink le⟩

/-- Words completed for a first parser, and then with what finishes a second one. -/
theorem Completes.bind {ends ends' : TokenKind → Prop}
    (completes : Completes ends least room P words)
    (finish : ∀ a, ∃ more b, (∀ w ∈ more, w.kind ≠ .endOfInput) ∧ least' ≤ more.length ∧
      ∀ next, ends' next → ends (headKind more next) ∧ Takes room' (fun i => F i a) more next b)
    (le : ∀ i, room i ≤ room' i + least) :
    Completes ends' (least + least') room (fun i => P i >>= F i) words := by
  obtain ⟨more, a, inside, long, takes⟩ := completes
  obtain ⟨more', b, inside', long', takes'⟩ := finish a
  refine ⟨more ++ more', b, ?_, ?_, fun next ended => ?_⟩
  · intro w member
    exact (List.mem_append.mp member).elim (inside w) (inside' w)
  · rw [← List.append_assoc, List.length_append]
    omega
  · obtain ⟨head, takes'⟩ := takes' next ended
    rw [← List.append_assoc]
    exact (takes _ head).bind takes' fun i => Nat.le_trans (le i) (Nat.add_le_add_left long _)

/-- Words that a first parser takes before those that are completed for a second one. -/
theorem completes_behind {ends : TokenKind → Prop} (long : least ≤ words.length)
    (rest : ∃ more b, (∀ w ∈ more, w.kind ≠ .endOfInput) ∧ least' ≤ (words' ++ more).length ∧
      ∀ next, ends next → Takes room P words (headKind (words' ++ more) next) a ∧
        Takes room' (fun i => F i a) (words' ++ more) next b)
    (le : ∀ i, room i ≤ room' i + words.length) :
    Completes ends (least + least') room (fun i => P i >>= F i) (words ++ words') := by
  obtain ⟨more, b, inside, long', takes⟩ := rest
  refine ⟨more, b, inside, ?_, fun next ended => ?_⟩
  · rw [List.append_assoc, List.length_append]
    omega
  · rw [List.append_assoc]
    exact (takes next ended).1.bind (takes next ended).2 le

theorem Refuses.bind (refuses : Refuses room P words w) :
    Refuses room (fun i => P i >>= F i) words w := by
  intro i c d fits passed shown b e run
  obtain ⟨a, m, run, -⟩ := yields_bind.mp run
  exact refuses i c d fits passed shown a m run

/-- What a second parser refuses is refused behind the words that a first one takes. -/
theorem Refuses.behind (refuses : Refuses room' (fun i => F i a) words' w)
    (takes : Takes room P words (headKind words' w.kind) a)
    (le : ∀ i, room i ≤ room' i + words.length) :
    Refuses room (fun i => P i >>= F i) (words ++ words') w := by
  intro i c e fits passed shown b e' run
  obtain ⟨m, before, after⟩ := Passes.append_iff.mp passed
  have head : m.current.kind = headKind words' w.kind := by
    rw [after.current_kind]
    exact congrArg (headKind words' ·.kind) shown
  obtain ⟨a', m', run, run'⟩ := yields_bind.mp run
  have enough := le i
  rw [List.length_append] at fits
  have again := takes i c m (by omega) before head
  cases Except.ok.inj (run.symm.trans again)
  exact refuses i m e (by omega) after shown b e' run'

/-- The parsers do the same as others wherever the given word is in view. -/
def Like (room : ι → Nat) (P Q : ι → Parser α) (w : Word) : Prop :=
  ∀ i c, 0 < room i → c.current.word = w → ∀ a d, (P i).Yields c a d ↔ (Q i).Yields c a d

theorem Takes.like (like : Like room P Q w) (takes : Takes room Q (w :: words) next a) :
    Takes room P (w :: words) next a := by
  intro i c d fits passed ended
  have shown := (Passes.cons_iff.mp passed).1
  exact (like i c (Nat.zero_lt_of_lt fits) shown a d).mpr (takes i c d fits passed ended)

end

/-- What is known of a parser at a cursor in comparison to a family of parsers. If it
succeeds, so do they where they see the same words, and then not only before the same kind of
token but also before every one in `ends`. If it fails, it is at a token that makes them fail
as well, and what it passed before can be completed. -/
structure FollowsAt (ends : TokenKind → Prop) (least : Nat) (room : ι → Nat) (p : Parser α)
    (P : ι → Parser α) (c : Cursor) : Prop where
  ok {a : α} {d : Cursor} : p.Yields c a d → ∃ words, least ≤ words.length ∧ c.Passes words d ∧
    ∀ next, next = d.current.kind ∨ ends next → Takes room P words next a
  fails {e : ParseError} : p.Errs c e → ∃ words d, c.Passes words d ∧
    e.position = some d.current.position ∧ Refuses room P words d.current.word ∧
    (words ≠ [] → Completes ends least room P words)

namespace FollowsAt

variable {ends ends' : TokenKind → Prop} {least least' : Nat} {room room' : ι → Nat}
  {p q : Parser α} {P Q : ι → Parser α}

theorem shrink (follows : FollowsAt ends least room p P c) (le : ∀ i, room' i ≤ room i) :
    FollowsAt ends least room' p P c := by
  constructor
  · intro a d run
    obtain ⟨words, long, passed, takes⟩ := follows.ok run
    exact ⟨words, long, passed, fun next ended => (takes next ended).shrink le⟩
  · intro e errs
    obtain ⟨words, d, passed, position, refuses, completes⟩ := follows.fails errs
    refine ⟨words, d, passed, position, ?_, fun some => (completes some).shrink le⟩
    exact fun i c d fits => refuses i c d (Nat.lt_of_lt_of_le fits (le i))

/-- A parser that neither succeeds nor errs. -/
theorem silent (stops : ¬p.Lives c) : FollowsAt ends least room p P c :=
  ⟨fun run => absurd (.inl ⟨_, _, run⟩) stops, fun errs => absurd (.inr ⟨_, errs⟩) stops⟩

/-- A parser that fails at the token in view, whatever follows it. -/
theorem rejects (never : ∀ a d, ¬p.Yields c a d)
    (position : ∀ e, p.Errs c e → e.position = some c.current.position)
    (refuses : Refuses room P [] c.current.word) : FollowsAt ends least room p P c :=
  ⟨fun run => absurd run (never _ _), fun errs => ⟨[], c, .done, position _ errs, refuses,
    fun some => absurd rfl some⟩⟩

theorem rejected (same : ∃ cause, p.run c = (fail cause c.current.position : Parser α).run c)
    (alike : ∀ i c', c'.current.word = c.current.word → ∀ a d, ¬(P i).Yields c' a d) :
    FollowsAt ends least room p P c := by
  obtain ⟨cause, same⟩ := same
  refine rejects ?_ ?_ ?_
  · intro a d run
    exact not_yields_fail (same.symm.trans run)
  · rintro e ⟨failed, other⟩
    exact errs_fail ⟨same.symm.trans failed, other⟩
  · intro i c' d _ passed shown
    obtain rfl := Passes.nil_iff.mp passed
    exact alike i c' shown

/-- A parser that fails at the token in view after it has passed it. -/
theorem rejectedBehind (same : ∃ cause, p.run c =
      (Parser.advance >>= fun _ => fail cause c.current.position : Parser α).run c)
    (alike : ∀ i c', c'.current.word = c.current.word → ∃ cause, (P i).run c' =
      (Parser.advance >>= fun _ => fail cause c'.current.position : Parser α).run c') :
    FollowsAt ends least room p P c := by
  obtain ⟨cause, same⟩ := same
  have never : ∀ {cause position c a d},
      ¬(Parser.advance >>= fun _ => fail cause position : Parser α).Yields c a d := by
    intro cause position c a d run
    obtain ⟨m, -, run⟩ := yields_advance_bind.mp run
    exact not_yields_fail run
  refine rejects (fun a d run => never (same.symm.trans run)) ?_ ?_
  · rintro e ⟨failed, other⟩
    obtain ⟨m, -, errs⟩ := errs_advance_bind.mp ⟨same.symm.trans failed, other⟩
    exact errs_fail errs
  · intro i c' d _ passed shown a e run
    obtain rfl := Passes.nil_iff.mp passed
    obtain ⟨cause, same'⟩ := alike i c' shown
    exact never (same'.symm.trans run)

/-- A choice made on the token in view, by a parser that passes it. -/
theorem like (follows : FollowsAt ends least room q Q c) (same : p.run c = q.run c)
    (alike : Like room P Q c.current.word) (passes : 0 < least) :
    FollowsAt ends least room p P c := by
  constructor
  · intro a d run
    obtain ⟨words, long, passed, takes⟩ := follows.ok (same.symm.trans run)
    refine ⟨words, long, passed, fun next ended => ?_⟩
    cases passed with
    | done => exact absurd long (by simp; omega)
    | step inside advanced rest => exact (takes next ended).like alike
  · intro e errs
    obtain ⟨words, d, passed, position, refuses, completes⟩ :=
      follows.fails ⟨same.symm.trans errs.1, errs.2⟩
    refine ⟨words, d, passed, position, ?_, ?_⟩
    · intro i c' d' fits passed' shown a e' run
      have first : c'.current.word = c.current.word := by
        cases passed with
        | done =>
          obtain rfl := Passes.nil_iff.mp passed'
          exact shown
        | step inside advanced rest => exact (Passes.cons_iff.mp passed').1
      have run := (alike i c' (Nat.zero_lt_of_lt fits) first a e').mp run
      exact refuses i c' d' fits passed' shown a e' run
    · intro some
      obtain ⟨more, a, inside, long, takes⟩ := completes some
      refine ⟨more, a, inside, long, fun next ended => ?_⟩
      cases passed with
      | done => exact absurd rfl some
      | step inside advanced rest => exact (takes next ended).like alike

/-- A parser that stops before the token in view. -/
theorem stays (run : p.Yields c a c)
    (takes : ∀ next, next = c.current.kind ∨ ends next → Takes room P [] next a) :
    FollowsAt ends 0 room p P c := by
  constructor
  · intro b d again
    cases Except.ok.inj (run.symm.trans again)
    exact ⟨[], Nat.le_refl 0, .done, takes⟩
  · rintro e ⟨failed, -⟩
    cases run.symm.trans failed

theorem pure (a : α) : FollowsAt ends 0 room (pure a) (fun _ => pure a) c :=
  stays (yields_pure.mpr ⟨rfl, rfl⟩) fun next _ => takes_pure a next

theorem fewer (follows : FollowsAt ends least room p P c) (le : least' ≤ least) :
    FollowsAt ends least' room p P c := by
  constructor
  · intro a d run
    obtain ⟨words, long, rest⟩ := follows.ok run
    exact ⟨words, Nat.le_trans le long, rest⟩
  · intro e errs
    obtain ⟨words, d, passed, position, refuses, completes⟩ := follows.fails errs
    refine ⟨words, d, passed, position, refuses, fun some => ?_⟩
    obtain ⟨more, a, inside, long, takes⟩ := completes some
    exact ⟨more, a, inside, Nat.le_trans le long, takes⟩

theorem narrow (follows : FollowsAt ends least room p P c) (sub : ∀ next, ends' next → ends next) :
    FollowsAt ends' least room p P c := by
  constructor
  · intro a d run
    obtain ⟨words, long, passed, takes⟩ := follows.ok run
    exact ⟨words, long, passed, fun next ended => takes next (ended.imp id (sub next))⟩
  · intro e errs
    obtain ⟨words, d, passed, position, refuses, completes⟩ := follows.fails errs
    refine ⟨words, d, passed, position, refuses, fun some => ?_⟩
    obtain ⟨more, a, inside, long, takes⟩ := completes some
    exact ⟨more, a, inside, long, fun next ended => takes next (sub next ended)⟩

theorem unfold (follows : FollowsAt ends least room p Q c)
    (same : ∀ i, 0 < room i → P i = Q i) : FollowsAt ends least room p P c := by
  constructor
  · intro a d run
    obtain ⟨words, long, passed, takes⟩ := follows.ok run
    exact ⟨words, long, passed, fun next ended => (takes next ended).unfold same⟩
  · intro e errs
    obtain ⟨words, d, passed, position, refuses, completes⟩ := follows.fails errs
    refine ⟨words, d, passed, position, ?_, fun some => ?_⟩
    · intro i c d fits
      rw [same i (Nat.zero_lt_of_lt fits)]
      exact refuses i c d fits
    · obtain ⟨more, a, inside, long, takes⟩ := completes some
      exact ⟨more, a, inside, long, fun next ended => (takes next ended).unfold same⟩

/-- Passing the token in view. What comes after may depend on its kind and text. -/
theorem advance {f : Token → Parser α} {F : ι → Token → Parser α}
    (inside : c.current.kind ≠ .endOfInput)
    (same : ∀ i t, t.word = c.current.word →
      ∀ m a e, (F i t).Yields m a e ↔ (F i c.current).Yields m a e)
    (rest : ∀ d, FollowsAt ends least room' (f c.current) (fun i => F i c.current) d)
    (finish : (∃ d, (f c.current).Lives d) →
      Completes ends least room' (fun i => F i c.current) [])
    (le : ∀ i, room i ≤ room' i + 1) :
    FollowsAt ends (least + 1) room (advance >>= f) (fun i => Parser.advance >>= F i) c := by
  have taken : ∀ {words next a}, Takes room' (fun i => F i c.current) words next a →
      Takes room (fun i => Parser.advance >>= F i) (c.current.word :: words) next a := by
    intro words next a takes i c' d fits passed ended
    obtain ⟨shown, -, m, advanced, after⟩ := Passes.cons_iff.mp passed
    have enough := le i
    rw [List.length_cons] at fits
    have run := takes i m d (by omega) after ended
    exact yields_advance_bind.mpr ⟨m, advanced, (same i _ shown m a d).mpr run⟩
  constructor
  · intro a e run
    obtain ⟨d, advanced, run⟩ := yields_advance_bind.mp run
    obtain ⟨words, long, passed, takes⟩ := (rest d).ok run
    refine ⟨_, ?_, .step inside advanced passed, fun next ended => taken (takes next ended)⟩
    rw [List.length_cons]
    omega
  · intro e errs
    obtain ⟨d, advanced, errs⟩ := errs_advance_bind.mp errs
    obtain ⟨words, d', passed, position, refuses, completes⟩ := (rest d).fails errs
    refine ⟨_, d', .step inside advanced passed, position, ?_, fun _ => ?_⟩
    · intro i c' d'' fits passed' shown a e' run
      obtain ⟨first, -, m, advanced', after⟩ := Passes.cons_iff.mp passed'
      obtain ⟨m', advanced'', run⟩ := yields_advance_bind.mp run
      cases Except.ok.inj (advanced'.symm.trans advanced'')
      have enough := le i
      rw [List.length_cons] at fits
      exact refuses i m d'' (by omega) after shown a e' ((same i _ first m a e').mp run)
    · have completes : Completes ends least room' (fun i => F i c.current) words := by
        by_cases some : words = []
        · subst some
          exact finish ⟨d, .inr ⟨e, errs⟩⟩
        · exact completes some
      obtain ⟨more, a, inside', long, takes⟩ := completes
      refine ⟨more, a, inside', ?_, fun next ended => taken (takes next ended)⟩
      rw [List.cons_append, List.length_cons]
      omega

/-- One parser after another. The second can be finished with words that begin with a token
before which the first one may end. -/
theorem bind {f : α → Parser β} {F : ι → α → Parser β} (first : FollowsAt ends least room p P c)
    (rest : ∀ a d, p.Yields c a d → FollowsAt ends' least' room' (f a) (fun i => F i a) d)
    (finish : p.Lives c → ∀ a, ∃ more b, (∀ w ∈ more, w.kind ≠ .endOfInput) ∧
      least' ≤ more.length ∧ ∀ next, ends' next →
        ends (headKind more next) ∧ Takes room' (fun i => F i a) more next b)
    (le : ∀ i, room i ≤ room' i + least) (meet : 0 < least' ∨ ∀ next, ends' next → ends next) :
    FollowsAt ends' (least + least') room (p >>= f) (fun i => P i >>= F i) c := by
  constructor
  · intro b e run
    obtain ⟨a, d, run, after⟩ := yields_bind.mp run
    obtain ⟨words, long, passed, takes⟩ := first.ok run
    obtain ⟨words', long', passed', takes'⟩ := (rest a d run).ok after
    refine ⟨words ++ words', ?_, passed.append passed', ?_⟩
    · rw [List.length_append]
      omega
    intro next ended
    refine (takes _ ?_).bind (takes' next ended) fun i => by have := le i; omega
    cases passed' with
    | done =>
      rcases ended with ended | ended
      · exact .inl ended
      · refine .inr (meet.resolve_left ?_ next ended)
        exact fun some => absurd (Nat.lt_of_lt_of_le some long') (by simp)
    | step inside advanced rest => exact .inl rfl
  · intro e errs
    rcases errs_bind.mp errs with errs | ⟨a, d, run, errs⟩
    · obtain ⟨words, d, passed, position, refuses, completes⟩ := first.fails errs
      exact ⟨words, d, passed, position, refuses.bind,
        fun some => (completes some).bind (finish (.inr ⟨e, errs⟩)) le⟩
    · obtain ⟨words, long, passed, takes⟩ := first.ok run
      obtain ⟨words', d', passed', position, refuses, completes⟩ := (rest a d run).fails errs
      have enough : ∀ i, room i ≤ room' i + words.length := fun i => by have := le i; omega
      refine ⟨words ++ words', d', passed.append passed', position, ?_, fun _ => ?_⟩
      · exact refuses.behind (takes _ (.inl passed'.current_kind.symm)) enough
      · -- Where the second parser passed nothing it is finished, else it is completed.
        refine completes_behind (a := a) long ?_ enough
        cases passed' with
        | done =>
          obtain ⟨more, b, inside, long', takes'⟩ := finish (.inl ⟨a, d, run⟩) a
          refine ⟨more, b, inside, long', fun next ended => ?_⟩
          exact ⟨takes _ (.inr (takes' next ended).1), (takes' next ended).2⟩
        | step inside advanced after =>
          obtain ⟨more, b, inside, long', takes'⟩ := completes (List.cons_ne_nil _ _)
          exact ⟨more, b, inside, long', fun next ended =>
            ⟨takes _ (.inl rfl), takes' next ended⟩⟩

/-- A parser with its result put into something. -/
theorem map (follows : FollowsAt ends least room p P c) (make : α → β) :
    FollowsAt ends least room (p >>= fun a => Pure.pure (make a))
      (fun i => P i >>= fun a => Pure.pure (make a)) c := by
  refine bind follows (fun a d _ => pure (make a))
    (fun _ a => ⟨[], make a, nofun, Nat.zero_le _, ?_⟩) (fun i => Nat.le_add_right _ _)
    (.inr fun _ => id)
  exact fun next ended => ⟨ended, takes_pure (make a) next⟩

/-- Passing a token of a given kind if it is in view. Otherwise the parser goes on at that
token and passes it in another way. -/
theorem accept {f : Bool → Parser α} {F : ι → Bool → Parser α} (inside : kind ≠ .endOfInput)
    (yes : ∀ d, FollowsAt ends 0 room (f true) (fun i => F i true) d)
    (finish : Completes ends 0 room (fun i => F i true) [])
    (no : c.current.kind ≠ kind → FollowsAt ends 1 room (f false) (fun i => F i false) c) :
    FollowsAt ends 1 room (accept kind >>= f) (fun i => Parser.accept kind >>= F i) c := by
  by_cases same : c.current.kind = kind
  · have passes : FollowsAt ends 1 room (Parser.advance >>= fun _ => f true)
        (fun i => Parser.advance >>= fun _ => F i true) c :=
      advance (same ▸ inside) (fun _ _ _ _ _ _ => Iff.rfl) yes (fun _ => finish)
        (fun i => Nat.le_succ _)
    refine passes.like (by rw [run_accept, if_pos same]) ?_ Nat.one_pos
    intro i c' _ shown a d
    have same' : c'.current.kind = kind := (kind_eq shown).trans same
    rw [Yields, run_accept, if_pos same', Yields]
  · refine (no same).like (by rw [run_accept, if_neg same]) ?_ Nat.one_pos
    intro i c' _ shown a d
    have other : c'.current.kind ≠ kind := fun same' =>
      same ((kind_eq shown).symm.trans same')
    rw [Yields, run_accept, if_neg other, Yields]

/-- Passing a token of a given kind and failing at any other. -/
theorem expect {f : Token → Parser α} {F : ι → Token → Parser α} (inside : kind ≠ .endOfInput)
    (same : ∀ i t t', t.word = t'.word → ∀ m a e, (F i t).Yields m a e ↔ (F i t').Yields m a e)
    (rest : c.current.kind = kind → ∀ d, FollowsAt ends least room' (f c.current)
      (fun i => F i c.current) d)
    (finish : c.current.kind = kind → Completes ends least room' (fun i => F i c.current) [])
    (le : ∀ i, room i ≤ room' i + 1) :
    FollowsAt ends (least + 1) room (expect kind what >>= f)
      (fun i => Parser.expect kind what >>= F i) c := by
  by_cases found : c.current.kind = kind
  · have passes : FollowsAt ends (least + 1) room (Parser.advance >>= f)
        (fun i => Parser.advance >>= F i) c :=
      advance (found ▸ inside) (fun i t shown => same i t _ shown) (rest found)
        (fun _ => finish found) le
    refine passes.like (by rw [run_expect, if_pos found]) ?_ (Nat.succ_pos _)
    intro i c' _ shown a d
    have found' : c'.current.kind = kind := (kind_eq shown).trans found
    rw [Yields, run_expect, if_pos found', Yields]
  · refine rejected ⟨_, by rw [run_expect, if_neg found, run_reject]⟩
      fun i c' shown a d => ?_
    have other : c'.current.kind ≠ kind := fun same' =>
      found ((kind_eq shown).symm.trans same')
    rw [Yields, run_expect, if_neg other]
    exact not_yields_reject

end FollowsAt

end Parser

end PiecewiseLang
