import PiecewiseLang.Proofs.Parsing.Entry
import PiecewiseLang.Proofs.Parsing.Following.Program

/-! Parse errors stand at the first token that cannot be right: what comes before it is the
beginning of some program, and with it there is none. -/
namespace PiecewiseLang

open Cursor PiecewiseLang.Parser

/-- The tokens are the beginning of some that are parsed. -/
def Viable (nesting : Nat) (tokens : List Token) : Prop :=
  ∃ more program, parseTokens nesting (.listed (tokens ++ more)) = .ok program

namespace Cursor

/-- What is passed of listed tokens that have an end is in front of the token then in view. -/
theorem Passes.listed (passed : Passes c words d) (supplied : c.supply = .listed rest)
    (ended : ∃ t ∈ c.current :: rest, t.kind = .endOfInput) : ∃ before after,
      c.current :: rest = before ++ d.current :: after ∧ before.map Token.word = words := by
  induction passed generalizing rest with
  | done => exact ⟨[], rest, rfl, rfl⟩
  | step inside advanced _ ih =>
    obtain ⟨last, member, ended⟩ := ended
    rcases List.mem_cons.mp member with rfl | member
    · exact absurd ended inside
    cases rest with
    | nil => cases member
    | cons t rest =>
      rw [advance, if_neg inside, supplied] at advanced
      cases advanced
      obtain ⟨before, after, split, words⟩ := ih rfl ⟨last, member, ended⟩
      exact ⟨_ :: before, after, by rw [split]; rfl, by rw [List.map_cons, words]⟩

end Cursor

section
variable {supply : Supply} {c d : Cursor} {nesting nesting' : Nat} {program : List Statement}

/-- A run that is parsed goes through with any larger bounds as well. -/
theorem Parser.statements_again (run : (statements bound nesting count).Yields c program d)
    (nests : nesting ≤ nesting') (some : 1 ≤ nesting') : ∃ words, c.Passes words d ∧
      ∀ limit c' d', words.length < limit → c'.Passes words d' →
        d'.current.kind = d.current.kind →
        (statements limit nesting' limit).Yields c' program d' := by
  have follows : FollowsAt (· = .endOfInput) 0 id (statements bound nesting count)
      (fun limit => statements limit nesting' limit) c :=
    statements_follows (fun _ => nests) (fun _ => some) (fun _ => Nat.le_refl _)
      (fun _ => Nat.le_refl _) c
  obtain ⟨words, -, passed, takes⟩ := follows.ok run
  exact ⟨words, passed, fun limit c' d' fits => takes _ (.inl rfl) limit c' d' fits⟩

theorem parseTokens_errs {failure : ParseFailure} (started : Cursor.start supply = .ok c)
    (failed : parseTokens nesting supply = .error failure) :
    (statements (loopBound supply) nesting (loopBound supply)).run c = .error failure := by
  rw [parseTokens, started] at failed
  cases ran : (statements (loopBound supply) nesting (loopBound supply)).run c with
  | error other =>
    simp only [bind, Except.bind, ran] at failed
    rw [Except.error.inj failed]
  | ok result =>
    simp only [bind, Except.bind, ran] at failed
    cases failed

/-- The words before the token at which a run fails. -/
structure Parser.Offends (nesting : Nat) (words : List Word) (w : Word) : Prop where
  /-- Nothing is parsed that shows the words and then that token. -/
  dead {nesting' limit : Nat} {c d : Cursor} : nesting ≤ nesting' → words.length < limit →
    c.Passes words d → d.current.word = w →
      ∀ program e, ¬(statements limit nesting' limit).Yields c program e
  alive : ∃ more program, (∀ w ∈ more, w.kind ≠ .endOfInput) ∧
    ∀ limit c d, (words ++ more).length < limit → c.Passes (words ++ more) d →
      d.current.kind = .endOfInput → (statements limit nesting limit).Yields c program d

theorem Parser.statements_errs (errs : (statements bound nesting count).Errs c e) :
    ∃ words d, c.Passes words d ∧ e.position = some d.current.position ∧
      Offends (max nesting 1) words d.current.word := by
  have follows : FollowsAt (· = .endOfInput) 0 Prod.fst (statements bound nesting count)
      (fun i : Nat × Nat => statements i.1 (max (max nesting 1) i.2) i.1) c :=
    statements_follows (fun _ => by omega) (fun _ => by omega) (fun _ => Nat.le_refl _)
      (fun _ => Nat.le_refl _) c
  obtain ⟨words, d, passed, position, refuses, completes⟩ := follows.fails errs
  refine ⟨words, d, passed, position, ?_, ?_⟩
  · intro nesting' limit c d nests fits passed shown program e
    have never := refuses (limit, nesting') c d fits passed shown program e
    simpa only [Nat.max_eq_right nests] using never
  · have completes : Completes (· = .endOfInput) 0 Prod.fst
        (fun i : Nat × Nat => statements i.1 (max (max nesting 1) i.2) i.1) words := by
      by_cases some : words = []
      · subst some
        exact ⟨[], [], nofun, Nat.zero_le _, fun _ ended =>
          ended ▸ statements_takes fun _ => Nat.le_refl _⟩
      · exact completes some
    obtain ⟨more, program, inside, -, takes⟩ := completes
    refine ⟨more, program, inside, fun limit c d fits passed ended => ?_⟩
    have run := takes .endOfInput rfl (limit, 0) c d fits passed ended
    simpa only [Nat.max_zero] using run

theorem viable_of_offends {before : List Token} (offends : Offends nesting (before.map Token.word) w)
    (inside : ∀ t ∈ before, t.kind ≠ .endOfInput) : Viable nesting before := by
  obtain ⟨more, program, others, takes⟩ := offends.alive
  have words : (before ++ more.map Word.token).map Token.word = before.map Token.word ++ more := by
    rw [List.map_append, Word.map_word_token]
  have inner : ∀ t ∈ before ++ more.map Word.token, t.kind ≠ .endOfInput := by
    intro t member
    rcases List.mem_append.mp member with member | member
    · exact inside t member
    · obtain ⟨w, among, rfl⟩ := List.mem_map.mp member
      exact others w among
  let last : Token := ⟨.endOfInput, "", 0⟩
  have ends : last.kind = .endOfInput := rfl
  obtain ⟨c, d, started, passed, ended⟩ := Supply.offers_listed inner ends
  rw [words] at passed
  refine ⟨more.map Word.token ++ [last], program, parseTokens_eq_ok.mpr ⟨c, d, ?_, ?_⟩⟩
  · rwa [← List.append_assoc]
  · refine takes _ c d ?_ passed ended
    simp [loopBound, Supply.size]
    omega

/-- What is parsed somewhere can be parsed again with more nesting than a run that fails has. -/
theorem not_parsed_of_offends (offends : Offends nesting words w)
    (parsed : parseTokens nesting' supply = .ok program) :
    ∃ c d words', Cursor.start supply = .ok c ∧ c.Passes words' d ∧ d.current.kind = .endOfInput ∧
      ∀ c' d' m : Cursor, c'.Passes words m → m.current.word = w → c'.Passes words' d' →
        d'.current.kind ≠ .endOfInput := by
  obtain ⟨c, d, started, run⟩ := parseTokens_eq_ok.mp parsed
  obtain ⟨words', whole, again⟩ := statements_again run
    (Nat.le_trans (Nat.le_max_right nesting nesting') (Nat.le_max_left _ 1)) (Nat.le_max_right _ 1)
  obtain ⟨-, -, ended, -⟩ := statements_sound run
  refine ⟨c, d, words', started, whole, ended, fun c' d' m passed shown whole' ended' => ?_⟩
  have yields := again (words.length + words'.length + 1) c' d' (by omega) whole'
    (ended'.trans ended.symm)
  exact offends.dead (Nat.le_trans (Nat.le_max_left nesting nesting') (Nat.le_max_left _ 1))
    (by omega) passed shown program d' yields

/-- Tokens that show the words and then the offending one are not the beginning of a program. -/
theorem not_viable_of_offends {shown : List Token} (offends : Offends nesting words w)
    (inside : ∀ w ∈ words, w.kind ≠ .endOfInput) (same : shown.map Token.word = words ++ [w]) :
    ¬Viable nesting' shown := by
  rintro ⟨more, program, parsed⟩
  obtain ⟨before, others, rfl, rfl, last⟩ := List.map_eq_append_iff.mp same
  obtain ⟨t, others, rfl, rfl, nothing⟩ := List.map_eq_cons_iff.mp last
  obtain rfl := List.map_eq_nil_iff.mp nothing
  rw [List.append_assoc] at parsed
  obtain ⟨c, d, words, started, whole, ended, never⟩ := not_parsed_of_offends offends parsed
  obtain ⟨c', m, _, drawn, passed, next⟩ := draw_listed
    (fun t member => inside t.word (List.mem_map_of_mem member)) (t :: more) 0
  cases Except.ok.inj (started.symm.trans drawn)
  cases next
  exact never c d _ passed rfl whole ended

/-- Where the end of input offends, the tokens before it are not a program. -/
theorem not_parsed_of_end_offends {before : List Token}
    (offends : Offends nesting (before.map Token.word) d.current.word)
    (ended : d.current.kind = .endOfInput) (passed : c.Passes (before.map Token.word) d) :
    parseTokens nesting' (.listed before) ≠ .ok program := by
  intro parsed
  have inside : ∀ t ∈ before, t.kind ≠ .endOfInput := fun t member =>
    passed.inside_all t.word (List.mem_map_of_mem member)
  obtain ⟨c', d', words, started, whole, ended', never⟩ := not_parsed_of_offends offends parsed
  obtain ⟨c'', m, _, drawn, passed', next⟩ := draw_listed inside [] 0
  rw [List.append_nil] at drawn
  cases Except.ok.inj (started.symm.trans drawn)
  cases next
  obtain rfl := whole.unique passed' ended' rfl
  exact never c d d passed rfl passed ended

/-- A parse error that is not for want of nesting stands at a token of the list. The tokens
before it are the beginning of a program, those up to and with it are not, whatever their
positions and the nesting; and where it is the end of input, the tokens before it are no
program by themselves. -/
theorem errors_at_first_offending_token {e : ParseError} (scanned : tokenize source = .ok tokens)
    (failed : parseTokens nesting (.listed tokens) = .error (.error e))
    (other : e.cause ≠ .nestedTooDeeply) :
    ∃ before t after, tokens = before ++ t :: after ∧ e.position = some t.position ∧
      Viable (max nesting 1) before ∧
      (∀ nesting' shown, shown.map Token.word = (before ++ [t]).map Token.word →
        ¬Viable nesting' shown) ∧
      (t.kind = .endOfInput → ∀ nesting' program,
        parseTokens nesting' (.listed before) ≠ .ok program) := by
  obtain ⟨inner, last, rfl, ended, -⟩ := tokenize_spells scanned
  obtain ⟨first, rest, tokens⟩ := List.exists_cons_of_ne_nil (List.concat_ne_nil last inner)
  let c : Cursor := ⟨first, .listed rest⟩
  have started : Cursor.start (.listed (inner ++ [last])) = .ok c := by rw [tokens]; rfl
  obtain ⟨words, d, passed, position, offends⟩ :=
    statements_errs ⟨parseTokens_errs started failed, other⟩
  have member : last ∈ first :: rest := by rw [← tokens]; simp
  obtain ⟨before, after, split, rfl⟩ := passed.listed rfl ⟨last, member, ended⟩
  refine ⟨before, d.current, after, tokens.trans split, position, ?_, ?_, ?_⟩
  · exact viable_of_offends offends fun t member =>
      passed.inside_all t.word (List.mem_map_of_mem member)
  · intro nesting' shown same
    rw [List.map_append] at same
    exact not_viable_of_offends offends passed.inside_all same
  · exact fun ended nesting' program => not_parsed_of_end_offends offends ended passed

/-- A block with two arms for what is left. -/
def secondElseSample : List Token :=
  [⟨.leftBrace, "\x7b", 0⟩, ⟨.integer, "1", 1⟩, ⟨.elseWord, "else", 3⟩, ⟨.semicolon, ";", 7⟩,
    ⟨.integer, "2", 9⟩, ⟨.elseWord, "else", 11⟩, ⟨.semicolon, ";", 15⟩, ⟨.rightBrace, "\x7d", 16⟩,
    ⟨.semicolon, ";", 17⟩, ⟨.endOfInput, "", 18⟩]

theorem errors_at_first_offending_token_sample :
    parseTokens 2 (.listed secondElseSample) = .error (.error ⟨.secondElse, some 11⟩) ∧
      ∃ before t after, secondElseSample = before ++ t :: after ∧ t.position = 11 ∧
        Viable 2 before ∧ ∀ nesting, ¬Viable nesting (before ++ [t]) := by
  have scanned : tokenize "\x7b1 else; 2 else;\x7d;" = .ok secondElseSample := by decide +kernel
  have failed : parseTokens 2 (.listed secondElseSample) =
      .error (.error ⟨.secondElse, some 11⟩) := by decide +kernel
  obtain ⟨before, t, after, split, position, viable, dead, -⟩ :=
    errors_at_first_offending_token scanned failed nofun
  exact ⟨failed, before, t, after, split, (Option.some.inj position).symm, viable,
    fun nesting => dead nesting _ rfl⟩

end

end PiecewiseLang
