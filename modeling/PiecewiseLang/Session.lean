import PiecewiseLang.Environment.Forest
import PiecewiseLang.Evaluation
import PiecewiseLang.Grammar.Program
import PiecewiseLang.Session.Record
import PiecewiseLang.Text.Lines
import PiecewiseLang.Value.Display

/-! Running programs. A program is parsed as a whole before any of it is carried out; then
its statements are carried out in order, up to the first that fails. What was bound and shown
before a failure stays. -/
namespace PiecewiseLang

/-- How the statements of a program went: the lines they showed, the environment after
them, the log, and the failure that ended them. -/
structure Progress where
  lines : List String
  environment : Environment
  log : List Record
  failure : Option EvalFailure

namespace Progress

/-- Puts lines and records in front of those of `p`. -/
def after (lines : List String) (log : List Record) (p : Progress) : Progress :=
  { p with lines := lines ++ p.lines, log := log ++ p.log }

end Progress

namespace Statement

/-- The lines a statement shows when it has the given value: one for an expression, none for
a binding. -/
def display (rendering : Nat) (s : Statement) (value : Value) : Except Fault (List String) :=
  match s with
  | .expression _ => (value.displayWithin rendering).map ([·])
  | _ => .ok []

/-- The record of a failure, which only errors of the language leave. -/
def failureLog (s : Statement) : EvalFailure → List Record
  | .error e => [.failed s e]
  | .fault _ => []

/-- Carries out statements in order. -/
def executeAll (limits : Limits) : Environment → List Statement → Progress
  | env, [] => ⟨[], env, [], none⟩
  | env, s :: rest =>
    let outcome := s.execute limits env
    let calls := outcome.calls.map Record.called
    match outcome.result with
    | .error failure => ⟨[], env, calls ++ s.failureLog failure, some failure⟩
    | .ok (value, next) =>
      match s.display limits.rendering value with
      | .error fault => ⟨[], next, calls, some (.fault fault)⟩
      | .ok lines => (executeAll limits next rest).after lines calls

end Statement

/-- How a program ended. -/
inductive Ending where
  | finished
  | parseError (error : ParseError)
  | evalError (error : EvalError)
  | fault (fault : Fault)
deriving DecidableEq

/-- The outcome of running a program. -/
structure Outcome where
  lines : List String
  environment : Environment
  log : List Record
  ending : Ending

namespace Outcome

/-- The outcome of a program that was not parsed. -/
def ofParseFailure (env : Environment) : ParseFailure → Outcome
  | .error e => ⟨[], env, [], .parseError e⟩
  | .fault f => ⟨[], env, [], .fault f⟩

/-- The outcome of a program of which `count` statements were parsed. -/
def ofProgress (count : Nat) (p : Progress) : Outcome :=
  match p.failure with
  | none => ⟨p.lines, p.environment, .parsed count :: (p.log ++ [.executed count]), .finished⟩
  | some (.error e) => ⟨p.lines, p.environment, .parsed count :: p.log, .evalError e⟩
  | some (.fault f) => ⟨p.lines, p.environment, .parsed count :: p.log, .fault f⟩

/-- The message of the error a program ended with. -/
def errorMessage? (outcome : Outcome) : Option String :=
  match outcome.ending with
  | .finished | .fault _ => none
  | .parseError e => some e.message
  | .evalError e => some e.message

/-- The lines of a program as one text. -/
def text (outcome : Outcome) : String := Text.joinLines outcome.lines

/-- How an error message is put to the user. -/
def errorLine (message : String) : String := "Error: " ++ message

/-- The lines of a program as one text, with an error as the last of them. A fault leaves
no text. -/
def transcript (outcome : Outcome) : Except Fault String :=
  match outcome.ending, outcome.errorMessage? with
  | .fault f, _ => .error f
  | _, none => .ok outcome.text
  | _, some message => .ok (Text.joinLines (outcome.lines ++ [errorLine message]))

end Outcome

/-- Runs a source text in an environment. -/
def execute (limits : Limits) (env : Environment) (source : String) : Outcome :=
  match parseProgram limits.nesting source with
  | .error failure => .ofParseFailure env failure
  | .ok program => .ofProgress program.length (Statement.executeAll limits env program)

/-- Runs a source text in the environment of one scope of a forest, which keeps the
bindings made. -/
def Forest.execute (limits : Limits) (forest : Forest) (number : Nat) (source : String) :
    Option (Forest × Outcome) :=
  (forest.environment? number).map fun env =>
    let outcome := PiecewiseLang.execute limits env source
    (forest.update number outcome.environment.innermost, outcome)

end PiecewiseLang
