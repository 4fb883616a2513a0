import PiecewiseLang.Proofs.Session.Faults
import PiecewiseLang.Proofs.Value.Display

/-! The lines of a program. Every value that texts can bind or show is written on one line, because
the functions among the values have come from texts and are made of names there. So the text of a
program that finishes can be taken apart again: its lines are the written forms of the values of its
expressions, one for each, in order. -/
namespace PiecewiseLang

namespace Text

/-- What has no line feed belongs to the line that goes on behind it. -/
theorem splitLines_append (inLine : '\n' ∉ start) (split : splitLines rest = line :: lines) :
    splitLines (start ++ rest) = (start ++ line) :: lines := by
  induction start with
  | nil => exact split
  | cons c start ih =>
    exact splitLines_cons (List.ne_of_not_mem_cons inLine).symm
      (ih (List.not_mem_of_not_mem_cons inLine))

/-- Lines that are joined come apart again. -/
theorem splitLines_joinLines (some : lines ≠ []) (all : ∀ line ∈ lines, OneLine line) :
    splitLines (joinLines lines).toList = lines.map String.toList := by
  induction lines with
  | nil => exact absurd rfl some
  | cons line lines ih =>
    obtain ⟨first, all⟩ := List.forall_mem_cons.mp all
    cases lines with
    | nil =>
      have single : splitLines (line.toList ++ []) = [line.toList ++ []] := splitLines_append first rfl
      simpa [joinLines] using single
    | cons next lines =>
      have text : (joinLines (line :: next :: lines)).toList =
          line.toList ++ '\n' :: (joinLines (next :: lines)).toList := by
        simp [joinLines, String.intercalate_cons_cons]
      have split : splitLines ('\n' :: (joinLines (next :: lines)).toList) =
          [] :: (next :: lines).map String.toList := congrArg ([] :: ·) (ih (by simp) all)
      rw [text, splitLines_append first split, List.append_nil, ← List.map_cons]

end Text

namespace Value

/-- What a value is written as is one line and not empty, and it can be written unless an integer
in it has too many digits. -/
def IsFramed (v : Value) : Prop :=
  (∀ text, v.display? = some text → text ≠ "" ∧ '\n' ∉ text.toList) ∧
    (v.display? = none ↔ ∃ n, v.HasInteger n ∧ 10 ^ Text.digitLimit ≤ n.natAbs)

theorem isFramed_of_spelled {v : Value} (spelled : v.Holds Spelled) : v.IsFramed :=
  ⟨display_oneLine spelled, v.display_eq_none⟩

end Value

theorem Environment.extend_binds {env : Environment} (bound : env.Binds V)
    (made : ∀ binding ∈ bindings, V binding.2) : (env.extend bindings).Binds V := by
  intro scope member binding inScope
  rcases List.mem_cons.mp member with rfl | member
  · rcases List.mem_append.mp inScope with old | new
    · exact bound env.innermost (List.mem_cons_self ..) binding old
    · exact made binding new
  · exact bound scope (List.mem_cons_of_mem _ member) binding inScope

namespace Statement

/-- Whether a statement shows a value. -/
def isShown : Statement → Bool
  | .expression _ => true
  | _ => false

variable {limits : Limits} {env : Environment}

theorem declares_spelled {s : Statement} (wellFormed : s.isWellFormed = true) :
    s.Declares (Value.Holds Value.Spelled) := by
  cases s with
  | declaration name parameters body =>
    simp only [isWellFormed, Bool.and_eq_true] at wellFormed
    exact .function ⟨wellFormed.1.1.2, wellFormed.2⟩
  | assignment name e => trivial
  | expression e => trivial

/-- The values a statement binds and shows have the properties that evaluation keeps. -/
theorem Does.keeps (closed : Value.Closed V) (bound : env.Binds V) {s : Statement}
    (declares : s.Declares V) (does : s.Does limits env made shown) :
    (∀ binding ∈ made, V binding.2) ∧ ∀ line ∈ shown, ∃ v, V v ∧ v.display? = some line := by
  cases does with
  | assigns evaluated =>
    have holds := evaluateWithin_keeps closed _ _ env bound _ _ evaluated
    simpa using holds
  | declares => exact ⟨List.forall_mem_singleton.mpr declares, nofun⟩
  | shows evaluated display =>
    have holds := evaluateWithin_keeps closed _ _ env bound _ _ evaluated
    simpa using ⟨_, holds, Value.display_of_within display⟩

/-- Every line is the written form of such a value. -/
theorem Carries.shows (closed : Value.Closed V) (bound : env.Binds V)
    (carries : Carries limits env program made lines) (declares : ∀ s ∈ program, s.Declares V) :
    ∀ line ∈ lines, ∃ v, V v ∧ v.display? = some line := by
  induction carries with
  | nil => nofun
  | cons does _ ih =>
    obtain ⟨first, declares⟩ := List.forall_mem_cons.mp declares
    obtain ⟨made, shown⟩ := does.keeps closed bound first
    exact List.forall_mem_append.mpr ⟨shown, ih (Environment.extend_binds bound made) declares⟩

theorem Does.length {s : Statement} (does : s.Does limits env made shown) :
    shown.length = [s].countP isShown := by
  cases does <;> rfl

/-- There is one line for every statement that shows a value. -/
theorem Carries.length (carries : Carries limits env program made lines) :
    lines.length = program.countP isShown := by
  induction carries with
  | nil => rfl
  | @cons env s rest made more shown lines does _ ih =>
    rw [List.length_append, does.length, ih, ← List.countP_append, List.singleton_append]

theorem executeAll_length (finished : (executeAll limits env program).failure = none) :
    (executeAll limits env program).lines.length = program.countP isShown := by
  obtain ⟨done, made, carries, -, ⟨-, rfl⟩ | ⟨_, _, _, failed, -⟩⟩ :=
    executeAll_carries limits env program
  · exact carries.length
  · cases finished.symm.trans failed

theorem executeAll_oneLine (bound : env.Binds (Value.Holds Value.Spelled))
    (wellFormed : ∀ s ∈ program, s.isWellFormed = true) :
    ∀ line ∈ (executeAll limits env program).lines, Text.OneLine line := by
  obtain ⟨done, made, carries, -, ended⟩ := executeAll_carries limits env program
  have inside : ∀ s ∈ done, s ∈ program := by
    rcases ended with ⟨-, rfl⟩ | ⟨s, rest, f, -, rfl, -⟩
    · exact fun s member => member
    · exact fun s member => List.mem_append_left _ member
  intro line member
  obtain ⟨v, spelled, shown⟩ := carries.shows (Value.holds_closed _) bound
    (fun s member => declares_spelled (wellFormed s (inside s member))) line member
  exact (Value.display_oneLine spelled line shown).2

/-- The line of an expression has as many lines before it as there are expressions. -/
theorem executeAll_line
    (finished : (executeAll limits env (before ++ .expression e :: after)).failure = none) :
    ∃ value line, (e.evaluate limits (executeAll limits env before).environment).result = .ok value ∧
      value.display? = some line ∧
      (executeAll limits env (before ++ .expression e :: after)).lines[before.countP isShown]? =
        some line := by
  cases failure : (executeAll limits env before).failure with
  | some f =>
    rw [executeAll_append_of_failed failure, failure] at finished
    cases finished
  | none =>
    rw [executeAll_append_of_finished failure] at finished ⊢
    rcases executeAll_step limits (executeAll limits env before).environment (.expression e) with
      ⟨made, shown, log, does, runs⟩ | ⟨f, log, -, ends⟩
    · cases does with
      | shows evaluated display =>
        refine ⟨_, _, evaluated, Value.display_of_within display, ?_⟩
        simp [runs, Progress.after, ← executeAll_length failure]
    · rw [ends] at finished
      cases finished

end Statement

theorem Environment.after_spelled (runs : List (Limits × String)) :
    (Environment.initial.after runs).Binds (Value.Holds Value.Spelled) := by
  apply after_binds (Value.holds_closed _) (initial_binds (Value.holds_closed _) fun _ => .builtin)
  intro nesting source program parsed s member
  exact Statement.declares_spelled (wellFormed_of_parseProgram parsed s member)

theorem executeAll_of_finished (parsed : parseProgram limits.nesting source = .ok program)
    (finished : (execute limits env source).ending = .finished) :
    (Statement.executeAll limits env program).failure = none := by
  obtain ⟨-, -, ending⟩ := execute_of_parsed parsed env
  rw [finished] at ending
  cases failure : (Statement.executeAll limits env program).failure with
  | none => rfl
  | some f =>
    rw [failure] at ending
    cases f <;> cases ending

/-- The expressions of statements that texts come to have values of one line as well. -/
theorem Reaches.isFramed (reached : Reaches limits (Environment.initial.after runs) source s now)
    {e : Expr} (evaluated : (e.evaluate more now).result = .ok v) : v.IsFramed := by
  obtain ⟨before, after, parsed, -, rfl⟩ := reached
  have wellFormed := wellFormed_of_parseProgram parsed
  have bound := Statement.executeAll_binds (Value.holds_closed _)
    (Environment.after_spelled runs) limits fun t member =>
      Statement.declares_spelled (wellFormed t (List.mem_append_left _ member))
  exact Value.isFramed_of_spelled
    (evaluateWithin_keeps (Value.holds_closed _) _ _ _ bound e v evaluated)

/-- Whatever was run before, the values that are bound and the values that expressions have are
written on one line, and not with nothing, if their integers can be written at all. So the text of
a program that finishes and shows something has one line for every expression, in order, which is
the written form of its value. -/
theorem shown_lines_are_displays (runs : List (Limits × String)) (limits : Limits)
    (source : String) :
    let env := Environment.initial.after runs
    let outcome := execute limits env source
    env.Binds Value.IsFramed ∧
    (∀ more e v, (Expr.evaluate more env e).result = .ok v → v.IsFramed) ∧
    (∀ s now, Reaches limits env source s now → ∀ e v,
      (Expr.evaluate limits now e).result = .ok v → v.IsFramed) ∧
    ∀ program, parseProgram limits.nesting source = .ok program → outcome.ending = .finished →
      1 ≤ program.countP Statement.isShown →
      (Text.splitLines outcome.text.toList).length = program.countP Statement.isShown ∧
      ∀ before e after, program = before ++ .expression e :: after → ∃ value line,
        (e.evaluate limits (Statement.executeAll limits env before).environment).result =
          .ok value ∧
        value.display? = some line ∧
        (Text.splitLines outcome.text.toList)[before.countP Statement.isShown]? =
          some line.toList := by
  intro env outcome
  have spelled : env.Binds (Value.Holds Value.Spelled) := Environment.after_spelled runs
  refine ⟨?_, fun more e v evaluated => ?_, fun s now reached e v => reached.isFramed, ?_⟩
  · intro scope member binding inScope
    exact Value.isFramed_of_spelled (spelled scope member binding inScope)
  · exact Value.isFramed_of_spelled
      (evaluateWithin_keeps (Value.holds_closed _) _ _ env spelled e v evaluated)
  · intro program parsed finished shown
    have finished := executeAll_of_finished parsed finished
    obtain ⟨lines, -, -⟩ := execute_of_parsed parsed env
    have count := Statement.executeAll_length finished
    have split : Text.splitLines outcome.text.toList =
        (Statement.executeAll limits env program).lines.map String.toList := by
      rw [Outcome.text, lines]
      refine Text.splitLines_joinLines (List.ne_nil_of_length_pos (count ▸ shown)) ?_
      exact Statement.executeAll_oneLine spelled (wellFormed_of_parseProgram parsed)
    rw [split, List.length_map, count]
    refine ⟨rfl, ?_⟩
    rintro before e after rfl
    obtain ⟨value, line, evaluated, display, place⟩ := Statement.executeAll_line finished
    exact ⟨value, line, evaluated, display, by rw [List.getElem?_map, place]; rfl⟩

/-- Lays a function out over lines, with a comment, and fails when it binds the name again. -/
def laidOutSample : List (Limits × String) :=
  [(⟨4, 20, 20⟩, "fn f(x, y) =\n  x + # and then\n\n  y;\nlet f = 1;")]

def shownSampleText : String := "f; let s = \x7b\x7b1\x7d, \x7b\x7d\x7d;\ns;\n\nf(1, 2); max;"

def shownSample : List Statement :=
  [.expression (.name "f"), .assignment "s" (.set [.set [.integer 1], .set []]),
    .expression (.name "s"), .expression (.call (.name "f") [.integer 1, .integer 2]),
    .expression (.name "max")]

theorem shown_lines_are_displays_sample :
    let outcome := execute ⟨4, 20, 20⟩ (Environment.initial.after laidOutSample) shownSampleText
    (Text.splitLines outcome.text.toList).length = 4 ∧
    (Text.splitLines outcome.text.toList)[0]? = some "fn(x, y) = (x + y);".toList ∧
    (Text.splitLines outcome.text.toList)[2]? = some ['3'] := by
  intro outcome
  have parsed : parseProgram (Limits.nesting ⟨4, 20, 20⟩) shownSampleText = .ok shownSample := by
    decide +kernel
  have finished : outcome.ending = .finished := by decide +kernel
  obtain ⟨-, -, -, framed⟩ := shown_lines_are_displays laidOutSample ⟨4, 20, 20⟩ shownSampleText
  obtain ⟨count, places⟩ := framed shownSample parsed finished (by decide)
  obtain ⟨f, line, evaluated, display, place⟩ := places [] (.name "f") _ rfl
  obtain ⟨sum, line', evaluated', display', place'⟩ :=
    places (shownSample.take 3) (.call (.name "f") [.integer 1, .integer 2]) _ rfl
  obtain rfl : f = .function ["x", "y"]
      (.combination ⟨.add, .infixed⟩ (some (.name "x")) (some (.name "y"))) :=
    Except.ok.inj (evaluated.symm.trans (by decide +kernel))
  obtain rfl : sum = .integer 3 := Except.ok.inj (evaluated'.symm.trans (by decide +kernel))
  cases display
  obtain rfl : line' = "3" := Option.some.inj (display'.symm.trans (by decide +kernel))
  exact ⟨count, place, place'⟩

end PiecewiseLang
