import PiecewiseLang.Proofs.Repl.Balance
import PiecewiseLang.Proofs.Session.Effects

/-! Programs joined by a line feed. The line feed ends a comment and divides the tokens on its
sides, so the joined text has the statements of the one program and then those of the other.
Carrying them out is carrying out the first and going on with the second where it left off. -/
namespace PiecewiseLang

/-- Two texts that are parsed are parsed as one, with the same nesting. -/
theorem parseProgram_joined (parsed : parseProgram nesting first = .ok program)
    (parsed' : parseProgram nesting second = .ok rest) :
    parseProgram nesting (first ++ "\n" ++ second) = .ok (program ++ rest) := by
  obtain ⟨words, spelled, segments⟩ := parseProgram_segments parsed
  obtain ⟨more, spelled', segments'⟩ := parseProgram_segments parsed'
  apply (segments.append segments').parse
  have whole := spelled.append_lineFeed spelled' (TokenKind.legal_of_used segments.used)
  simpa using whole

@[simp] theorem Progress.after_after (p : Progress) (lines more : List String)
    (log rest : List Record) :
    (p.after more rest).after lines log = p.after (lines ++ more) (log ++ rest) := by
  simp [after]

namespace Statement

/-- Statements that end with a failure are the last that are carried out. -/
theorem executeAll_append_of_failed {limits : Limits} {env : Environment}
    (failed : (executeAll limits env first).failure = some f) (second : List Statement) :
    executeAll limits env (first ++ second) = executeAll limits env first := by
  induction first generalizing env with
  | nil => cases failed
  | cons s first ih =>
    -- What the first statement does is the same before the rest of the one list and the other.
    rcases executeAll_step limits env s with ⟨made, shown, log, -, runs⟩ | ⟨f, log, -, ends⟩
    · rw [runs] at failed
      rw [List.cons_append, runs, runs, ih failed]
    · rw [List.cons_append, ends, ends]

/-- Statements that do not fail are followed by the next ones where they left off. -/
theorem executeAll_append_of_finished {limits : Limits} {env : Environment}
    (finished : (executeAll limits env first).failure = none) (second : List Statement) :
    executeAll limits env (first ++ second) =
      (executeAll limits (executeAll limits env first).environment second).after
        (executeAll limits env first).lines (executeAll limits env first).log := by
  induction first generalizing env with
  | nil => rfl
  | cons s first ih =>
    rcases executeAll_step limits env s with ⟨made, shown, log, -, runs⟩ | ⟨f, log, -, ends⟩
    · rw [runs] at finished
      rw [List.cons_append, runs, runs, ih finished, Progress.after_after]
      rfl
    · rw [ends] at finished
      cases finished

end Statement

/-- Running two programs one after the other is running them as one text, with a line feed
between them. If the first finishes, the second goes on in the environment it left, and both
together show their lines, end and leave the environment as the joined program does. If the
first fails, the joined program has failed in the same way at the same place. -/
theorem joined_programs_run_in_turn (limits : Limits) (env : Environment)
    (parsed : parseProgram limits.nesting first = .ok program)
    (parsed' : parseProgram limits.nesting second = .ok rest) :
    let before := execute limits env first
    let after := execute limits before.environment second
    let joined := execute limits env (first ++ "\n" ++ second)
    (before.ending = .finished → joined.lines = before.lines ++ after.lines ∧
      joined.ending = after.ending ∧ joined.environment = after.environment) ∧
    (before.ending ≠ .finished → joined.lines = before.lines ∧
      joined.ending = before.ending ∧ joined.environment = before.environment) := by
  intro before after joined
  obtain ⟨lines, environment, ending⟩ := execute_of_parsed parsed env
  obtain ⟨lines', environment', ending'⟩ := execute_of_parsed parsed' before.environment
  obtain ⟨allLines, last, allEnding⟩ :=
    execute_of_parsed (parseProgram_joined parsed parsed') env
  cases failure : (Statement.executeAll limits env program).failure with
  | none =>
    rw [failure] at ending
    rw [Statement.executeAll_append_of_finished failure, ← lines, ← environment]
      at allLines last allEnding
    constructor
    · intro _
      refine ⟨?_, allEnding.trans ending'.symm, last.trans environment'.symm⟩
      exact allLines.trans (congrArg (before.lines ++ ·) lines'.symm)
    · intro failed
      exact absurd ending failed
  | some f =>
    rw [Statement.executeAll_append_of_failed failure] at allLines last allEnding
    constructor
    · intro finished
      rw [failure] at ending
      cases f <;> cases ending.symm.trans finished
    · intro _
      exact ⟨allLines.trans lines.symm, allEnding.trans ending.symm, last.trans environment.symm⟩

/-- The first program ends with a comment; the second uses what it bound, and then fails. -/
theorem joined_programs_run_in_turn_sample :
    let before := execute ⟨4, 20, 20⟩ .empty "let a = 2; a; # seam"
    let after := execute ⟨4, 20, 20⟩ before.environment "let b = a; b + 1; c; a;"
    let joined := execute ⟨4, 20, 20⟩ .empty "let a = 2; a; # seam\nlet b = a; b + 1; c; a;"
    joined.lines = ["2", "3"] ∧ joined.ending = .evalError (.unboundName "c") ∧
      joined.environment = after.environment := by
  intro before after joined
  have parsed : parseProgram (Limits.nesting ⟨4, 20, 20⟩) "let a = 2; a; # seam" =
      .ok [.assignment "a" (.integer 2), .expression (.name "a")] := by decide +kernel
  have parsed' : parseProgram (Limits.nesting ⟨4, 20, 20⟩) "let b = a; b + 1; c; a;" =
      .ok [.assignment "b" (.name "a"),
        .expression (.combination ⟨.add, .infixed⟩ (some (.name "b")) (some (.integer 1))),
        .expression (.name "c"), .expression (.name "a")] := by decide +kernel
  have finished : before.ending = .finished := by decide +kernel
  have first : before.lines = ["2"] := by decide +kernel
  have second : after.lines = ["3"] ∧ after.ending = .evalError (.unboundName "c") := by
    decide +kernel
  obtain ⟨lines, ending, environment⟩ :=
    (joined_programs_run_in_turn ⟨4, 20, 20⟩ .empty parsed parsed').1 finished
  refine ⟨lines.trans ?_, ending.trans second.2, environment⟩
  rw [first, second.1]
  rfl

end PiecewiseLang
