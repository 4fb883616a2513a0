import PiecewiseLang.Proofs.Evaluation.Faults
import PiecewiseLang.Proofs.Parsing.Supplies
import PiecewiseLang.Proofs.Session.Joining

/-! Programs that break down. A program ends with a fault exactly if something in it is too large
for what is done with it: a numeral that is read, an integer whose factorial is taken, a call
limit that is named when a call is refused, or a value that is shown. Any other program finishes
or ends with an error of the language, and so has a transcript. -/
namespace PiecewiseLang

namespace Value

/-- An integer that a value is or that is somewhere in it. -/
inductive HasInteger (n : Int) : Value → Prop where
  | self : HasInteger n (.integer n)
  | member : m ∈ members → HasInteger n m → HasInteger n (.set elementKind members)

theorem displayEach_eq_none {members : List Value} :
    displayEach? members = none ↔ ∃ m ∈ members, m.display? = none := by
  induction members with
  | nil => simp [displayEach?]
  | cons m members ih =>
    simp only [List.mem_cons, exists_eq_or_imp, ← ih]
    cases first : m.display? <;> cases rest : displayEach? members <;>
      simp [displayEach?, first, rest]

/-- A value has no text exactly if an integer in it has too many digits. -/
theorem display_eq_none : (v : Value) →
    (v.display? = none ↔ ∃ n, v.HasInteger n ∧ 10 ^ Text.digitLimit ≤ n.natAbs)
  | .integer n => by
    rw [display?, Text.writeInteger_eq_none]
    constructor
    · exact fun long => ⟨n, .self, long⟩
    · rintro ⟨_, ⟨⟩, long⟩
      exact long
  | .set elementKind members => by
    rw [display?, Option.map_eq_none_iff, displayEach_eq_none]
    constructor
    · rintro ⟨m, member, long⟩
      obtain ⟨n, inside, long⟩ := (display_eq_none m).mp long
      exact ⟨n, .member member inside, long⟩
    · rintro ⟨n, _ | ⟨member, inside⟩, long⟩
      exact ⟨_, member, (display_eq_none _).mpr ⟨n, inside, long⟩⟩
  | .real _ | .boolean _ | .undefined | .function .. | .builtin _ => by
    constructor
    · intro missing
      simp [display?] at missing
    · rintro ⟨_, ⟨⟩, _⟩

end Value

namespace Statement

theorem executeAll_of_error {s : Statement} (failed : (s.execute limits env).result = .error f)
    (rest : List Statement) : (executeAll limits env (s :: rest)).failure = some f := by
  simp only [executeAll, failed]

/-- A statement that fails ends the program with its failure, whatever follows it. -/
theorem Stops.failure {s : Statement} (stops : s.Stops limits env f) (rest : List Statement) :
    (executeAll limits env (s :: rest)).failure = some f := by
  cases stops with
  | evaluating found failed =>
    refine executeAll_of_error ?_ rest
    cases s with
    | assignment name e => cases found; simp only [execute, Traced.result_bind, failed]; rfl
    | expression e => cases found; simp only [execute, Traced.result_bind, failed]; rfl
    | declaration => cases found
  | rebinding named bound evaluated =>
    refine executeAll_of_error ?_ rest
    cases s with
    | assignment name e =>
      cases named
      obtain ⟨value, evaluated⟩ := evaluated e rfl
      simp only [execute, Environment.declare, bound, Traced.result_bind, evaluated]
      rfl
    | declaration name parameters body =>
      cases named
      simp only [execute, Environment.declare, bound, Traced.result_bind]
      rfl
    | expression => cases named
  | @showing e fault value evaluated unwritten =>
    have done : ((Statement.expression e).execute limits env).result = .ok (value, env) := by
      simp only [execute, Traced.result_bind, evaluated]
      rfl
    have shown : (Statement.expression e).display limits.rendering value = .error fault := by
      simp only [display, unwritten]
      rfl
    simp only [executeAll, done, shown]

/-- A program fails as the first statement does that fails. -/
theorem executeAll_failure {limits : Limits} {env : Environment} {program : List Statement} :
    (executeAll limits env program).failure = some f ↔
      ∃ before s after, program = before ++ s :: after ∧
        (executeAll limits env before).failure = none ∧
        s.Stops limits (executeAll limits env before).environment f := by
  constructor
  · intro failed
    induction program generalizing env with
    | nil => cases failed
    | cons s program ih =>
      rcases executeAll_step limits env s with ⟨made, shown, log, -, runs⟩ | ⟨g, log, stops, ends⟩
      · rw [runs] at failed
        obtain ⟨before, t, after, rfl, finished, stops⟩ := ih failed
        refine ⟨s :: before, t, after, rfl, ?_, ?_⟩
        · rw [runs]
          exact finished
        · rw [runs]
          exact stops
      · rw [ends] at failed
        cases failed
        exact ⟨[], s, program, rfl, rfl, stops⟩
  · rintro ⟨before, s, after, rfl, finished, stops⟩
    rw [executeAll_append_of_finished finished]
    exact stops.failure after

end Statement

/-- A statement that running a text comes to, and the environment it is carried out in: the text
was parsed, and the statements before it did not fail. -/
def Reaches (limits : Limits) (env : Environment) (source : String) (s : Statement)
    (now : Environment) : Prop :=
  ∃ before after, parseProgram limits.nesting source = .ok (before ++ s :: after) ∧
    (Statement.executeAll limits env before).failure = none ∧
    (Statement.executeAll limits env before).environment = now

/-- A program ends with a fault of its parsing or of a statement that it comes to. -/
theorem execute_ending_fault {limits : Limits} {env : Environment} {source : String} {g : Fault} :
    (execute limits env source).ending = .fault g ↔
      parseProgram limits.nesting source = .error (.fault g) ∨
      ∃ s now, Reaches limits env source s now ∧ s.Stops limits now (.fault g) := by
  cases parsed : parseProgram limits.nesting source with
  | error failure =>
    have nothing : ¬∃ s now, Reaches limits env source s now ∧ s.Stops limits now (.fault g) := by
      rintro ⟨s, now, ⟨before, after, parsed', -⟩, -⟩
      rw [parsed] at parsed'
      cases parsed'
    rw [execute, parsed]
    cases failure <;> simp [Outcome.ofParseFailure, nothing]
  | ok program =>
    obtain ⟨-, -, ending⟩ := execute_of_parsed parsed env
    have ended : (execute limits env source).ending = .fault g ↔
        (Statement.executeAll limits env program).failure = some (.fault g) := by
      rw [ending]
      cases (Statement.executeAll limits env program).failure with
      | none => simp
      | some f => cases f <;> simp [Ending.ofFailure]
    rw [ended, Statement.executeAll_failure]
    constructor
    · rintro ⟨before, s, after, rfl, finished, stops⟩
      exact .inr ⟨s, _, ⟨before, after, parsed, finished, rfl⟩, stops⟩
    · rintro (failed | ⟨s, _, ⟨before, after, parsed', finished, rfl⟩, stops⟩)
      · cases failed
      · rw [parsed] at parsed'
        cases parsed'
        exact ⟨before, s, after, rfl, finished, stops⟩

/-- The statements that texts come to are well-formed, and the environments they find are sound. -/
theorem Reaches.sound (reached : Reaches limits (Environment.initial.after runs) source s now) :
    s.isWellFormed = true ∧ now.Binds Value.Sound := by
  obtain ⟨before, after, parsed, -, rfl⟩ := reached
  have wellFormed := wellFormed_of_parseProgram parsed
  refine ⟨wellFormed s (by simp), ?_⟩
  apply Statement.executeAll_binds Value.sound_closed (Environment.after_sound runs) limits
  exact fun t member => Statement.declares_sound (wellFormed t (List.mem_append_left _ member))

/-- How a text breaks down when it is run: the parser comes to a numeral of too many digits; an
evaluation comes to a factorial or to a refused call that breaks down; or there is an obstacle in
a value that is shown. -/
inductive Breaks (limits : Limits) (env : Environment) (source : String) : Fault → Prop where
  | reading : parseProgram limits.nesting source = .error (.fault .overlongInteger) →
      Lexeme.Overlong source.toList → Breaks limits env source .overlongInteger
  | evaluating : Reaches limits env source s now → s.evaluated? = some e →
      Evaluation.Occurs limits.callDepth limits.nesting now e event →
      event.Breaks limits.callDepth fault → Breaks limits env source fault
  | showing : Reaches limits env source (.expression e) now →
      (e.evaluate limits now).result = .ok value →
      Value.Obstructed limits.rendering value fault → Breaks limits env source fault

section
variable {runs : List (Limits × String)}

/-- A text that is stopped by a fault of a statement breaks down there. -/
theorem Breaks.of_stops (reached : Reaches limits (Environment.initial.after runs) source s now)
    (stops : s.Stops limits now (.fault g)) :
    Breaks limits (Environment.initial.after runs) source g := by
  obtain ⟨wellFormed, bound⟩ := reached.sound
  cases stops with
  | evaluating found failed =>
    have formed := Statement.evaluated_wellFormed wellFormed found
    obtain ⟨event, occurs, breaks⟩ := (Expr.evaluate_eq_fault bound formed limits g).mp failed
    exact .evaluating reached found occurs breaks
  | showing evaluated unwritten =>
    exact .showing reached evaluated (Value.displayWithin_eq_error.mp unwritten)

/-- A text that breaks down is not parsed, or it is stopped there. -/
theorem Breaks.stops (breaks : Breaks limits (Environment.initial.after runs) source g) :
    parseProgram limits.nesting source = .error (.fault g) ∨
      ∃ s now, Reaches limits (Environment.initial.after runs) source s now ∧
        s.Stops limits now (.fault g) := by
  cases breaks with
  | reading failed => exact .inl failed
  | evaluating reached found occurs breaks =>
    obtain ⟨wellFormed, bound⟩ := reached.sound
    have formed := Statement.evaluated_wellFormed wellFormed found
    have failed := (Expr.evaluate_eq_fault bound formed limits g).mpr ⟨_, occurs, breaks⟩
    exact .inr ⟨_, _, reached, .evaluating found failed⟩
  | showing reached evaluated obstructed =>
    have unwritten := Value.displayWithin_eq_error.mpr obstructed
    exact .inr ⟨_, _, reached, .showing evaluated unwritten⟩

end

/-- Whatever was run before, a text breaks down on what is too large for what is done with it and
on nothing else. Where nothing is, the text finishes or ends with an error of the language, and
its lines and the error make up a transcript. -/
theorem programs_break_at_limits_only (runs : List (Limits × String)) (limits : Limits)
    (source : String) :
    let env := Environment.initial.after runs
    let outcome := execute limits env source
    (∀ fault, outcome.ending = .fault fault ↔ Breaks limits env source fault) ∧
    ((∀ fault, ¬Breaks limits env source fault) ↔ outcome.ending = .finished ∨
      (∃ e, outcome.ending = .parseError e) ∨ ∃ e, outcome.ending = .evalError e) ∧
    ((∀ fault, ¬Breaks limits env source fault) ↔ ∃ text, outcome.transcript = .ok text) := by
  intro env outcome
  have faults : ∀ fault, outcome.ending = .fault fault ↔ Breaks limits env source fault := by
    intro fault
    refine execute_ending_fault.trans ⟨?_, Breaks.stops⟩
    rintro (failed | ⟨s, now, reached, stops⟩)
    · obtain ⟨rfl, overlong⟩ := parseProgram_fault failed
      exact .reading failed overlong
    · exact .of_stops reached stops
  refine ⟨faults, ?_, ?_⟩
  · simp only [← faults]
    cases outcome.ending <;> simp
  · simp only [← faults, Outcome.transcript, Outcome.errorMessage?]
    cases outcome.ending <;> simp

/-- One past the greatest integer whose factorial is taken. -/
theorem programs_break_at_limits_only_sample :
    Breaks .default .initial "(9223372036854775807 + 1)!;" .oversizedFactorial ∧
    ∀ text, (execute .default .initial "(9223372036854775807 + 1)!;").transcript ≠ .ok text := by
  obtain ⟨faults, -, texts⟩ :=
    programs_break_at_limits_only [] .default "(9223372036854775807 + 1)!;"
  have breaks := (faults .oversizedFactorial).mp (by decide +kernel)
  refine ⟨breaks, fun text written => ?_⟩
  exact texts.mpr ⟨text, written⟩ .oversizedFactorial breaks

end PiecewiseLang
