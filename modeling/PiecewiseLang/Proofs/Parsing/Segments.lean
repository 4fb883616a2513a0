import PiecewiseLang.Proofs.Parsing.Entry
import PiecewiseLang.Proofs.Parsing.Following.Program

/-! Programs in pieces. The words of a statement are read as that statement with the same
nesting wherever they stand, so a program can be cut between its statements and parsed piece
by piece. -/
namespace PiecewiseLang

open Cursor

namespace Parser

/-- The words are read as the statement, and with the given nesting wherever they stand. -/
structure Segment (nesting : Nat) (words : List Word) (s : Statement) : Prop where
  read : Reading.Statement words s
  takes {limit : Nat} {c d : Cursor} : words.length < limit → c.Passes words d →
    (statement limit nesting).Yields c s d

inductive Segments (nesting : Nat) : List Word → List Statement → Prop where
  | done : Segments nesting [] []
  | more : Segment nesting words s → Segments nesting rest program →
      Segments nesting (words ++ rest) (s :: program)

section
variable {nesting : Nat}

/-- Every statement holds an expression. -/
theorem nesting_pos (run : (statement bound nesting).Yields c s d) : 1 ≤ nesting := by
  cases nesting with
  | succ nesting => exact Nat.le_add_left 1 nesting
  | zero =>
    have deep : ∀ {c e d}, ¬(expression bound 0 .lowest).Yields c e d := not_yields_tooDeep
    rw [Yields, run_statement] at run
    split at run
    · rw [← Yields] at run
      simp only [assignment, yields_bind, deep, false_and, and_false, exists_false] at run
    split at run
    · rw [← Yields] at run
      simp only [declaration, yields_bind, deep, false_and, and_false, exists_false] at run
    · rw [← Yields] at run
      simp only [yields_bind, deep, false_and, exists_false] at run

theorem segment_of_yields (run : (statement bound nesting).Yields c s d) :
    ∃ words, c.Passes words d ∧ Segment nesting words s := by
  have follows : FollowsAt anyKind 1 id (statement bound nesting)
      (fun limit => statement limit nesting) c :=
    statement_follows (fun _ => Nat.le_refl _) (fun _ => nesting_pos run) c
  obtain ⟨words, -, passed, takes⟩ := follows.ok run
  have again : ∀ {limit c' d'}, words.length < limit → c'.Passes words d' →
      (statement limit nesting).Yields c' s d' := fun {limit c' d'} fits passed' =>
    takes d'.current.kind (.inr trivial) limit c' d' fits passed' rfl
  refine ⟨words, passed, ?_, again⟩
  -- Before the end of input the statement is read from all of these words.
  obtain ⟨c', d', passed', ended⟩ := exists_passes passed.inside_all
  obtain ⟨words', passed'', read⟩ := statement_sound (again (Nat.lt_succ_self _) passed')
  rwa [passed'.unique passed'' ended ended]

theorem statements_segments : (statements bound nesting count).Yields c program d →
    ∃ words, c.Passes words d ∧ d.current.kind = .endOfInput ∧ Segments nesting words program := by
  induction count generalizing c program with
  | zero => exact fun run => absurd run not_yields_tooDeep
  | succ count ih =>
    intro run
    rw [statements, yields_peek_bind] at run
    split at run
    case isTrue ended =>
      obtain ⟨rfl, rfl⟩ := yields_pure.mp run
      exact ⟨[], .done, ended, .done⟩
    case isFalse =>
      obtain ⟨first, m, one, rest⟩ := yields_bind.mp run
      obtain ⟨others, e, more, whole⟩ := yields_bind.mp rest
      obtain ⟨rfl, rfl⟩ := yields_pure.mp whole
      obtain ⟨words, passed, segment⟩ := segment_of_yields one
      obtain ⟨words', passed', ended, segments⟩ := ih more
      exact ⟨words ++ words', passed.append passed', ended, .more segment segments⟩

theorem Segments.append (first : Segments nesting words program)
    (second : Segments nesting words' program') :
    Segments nesting (words ++ words') (program ++ program') := by
  induction first with
  | done => exact second
  | more segment _ ih =>
    rw [List.append_assoc]
    exact .more segment ih

theorem Segments.yields (segments : Segments nesting words program) (passed : c.Passes words d)
    (ended : d.current.kind = .endOfInput) (fits : words.length < bound)
    (enough : words.length < count) : (statements bound nesting count).Yields c program d := by
  induction segments generalizing c count with
  | done =>
    obtain rfl := Passes.nil_iff.mp passed
    obtain ⟨count, rfl⟩ := Nat.exists_eq_add_of_lt enough
    rw [Nat.add_assoc]
    exact statements_end ended
  | more segment _ ih =>
    obtain ⟨m, before, after⟩ := Passes.append_iff.mp passed
    have some := segment.read.length_pos
    rw [List.length_append] at fits enough
    cases count with
    | zero => omega
    | succ count =>
      rw [Yields, run_statements (before.inside some)]
      exact yields_bind.mpr ⟨_, m, segment.takes (by omega) before, yields_bind.mpr
        ⟨_, d, ih after (by omega) (by omega), yields_pure.mpr ⟨rfl, rfl⟩⟩⟩

end

end Parser

open PiecewiseLang.Parser

theorem parseProgram_segments (parsed : parseProgram nesting source = .ok program) :
    ∃ words, Spells source.toList words ∧ Segments nesting words program := by
  obtain ⟨c, d, started, run⟩ := parseTokens_eq_ok.mp parsed
  obtain ⟨words, passed, ended, segments⟩ := statements_segments run
  exact ⟨words, Cursor.spells_of_passes passed ended started, segments⟩

theorem Parser.Segments.parse (segments : Segments nesting words program)
    (spelled : Spells source.toList words) : parseProgram nesting source = .ok program := by
  obtain ⟨c, d, started, passed, ended⟩ := Supply.offers_source spelled
  have short := spelled.length_le
  refine parseTokens_eq_ok.mpr ⟨c, d, started, segments.yields passed ended ?_ ?_⟩ <;>
    simp only [loopBound, Supply.ofSource, Supply.size] <;> omega

/-- Whatever supply the words come from, they are parsed as the statements they are cut into. -/
theorem Parser.segments_iff {supply : Supply} (offers : supply.Offers words)
    (bounded : words.length ≤ supply.size) :
    Segments nesting words program ↔ parseTokens nesting supply = .ok program := by
  obtain ⟨c, d, started, passed, ended⟩ := offers
  rw [parseTokens_eq_ok]
  constructor
  · intro segments
    refine ⟨c, d, started, segments.yields passed ended ?_ ?_⟩ <;>
      simp only [loopBound] <;> omega
  · rintro ⟨c', d', started', run⟩
    cases Except.ok.inj (started'.symm.trans started)
    obtain ⟨words', passed', ended', segments⟩ := statements_segments run
    rwa [passed.unique passed' ended ended']

end PiecewiseLang
