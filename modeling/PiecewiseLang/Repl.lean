import PiecewiseLang.Session
import PiecewiseLang.Settings
import PiecewiseLang.Terminal.Table

/-! Interactive sessions. Lines are gathered until they make complete statements, and then
run as one program; the environment stays from one program to the next. While no line is
waiting, a line may also be a command. -/
namespace PiecewiseLang

/-- How far the groups of a text are open: parentheses and braces opened less those closed,
and the number of bars. -/
structure Balance where
  parens : Int
  braces : Int
  bars : Nat

namespace Balance

def zero : Balance := ⟨0, 0, 0⟩

def add (balance : Balance) (t : Token) : Balance :=
  match t.kind with
  | .leftParen => { balance with parens := balance.parens + 1 }
  | .rightParen => { balance with parens := balance.parens - 1 }
  | .leftBrace => { balance with braces := balance.braces + 1 }
  | .rightBrace => { balance with braces := balance.braces - 1 }
  | .bar => { balance with bars := balance.bars + 1 }
  | _ => balance

/-- Nothing is open. What closes too much is left for the parser to report. -/
def isClosed (balance : Balance) : Bool :=
  balance.parens ≤ 0 && balance.braces ≤ 0 && balance.bars % 2 = 0

end Balance

/-- Whether a text ends with a semicolon and leaves no group open. -/
def isComplete (source : String) : Except Fault Bool := do
  let tokens := (← tokenize source).filter (·.kind ≠ .endOfInput)
  match tokens.getLast? with
  | none => return false
  | some last =>
    return last.kind = .semicolon && (tokens.foldl Balance.add Balance.zero).isClosed

structure Repl where
  environment : Environment
  settings : Settings
  /-- The lines that wait for the rest of their statements. -/
  waiting : List String

/-- What a line led to. -/
inductive Reaction where
  | quit
  | listed (environment : Environment)
  | ignored
  | waited
  | ran (source : String) (outcome : Outcome)
  /-- The line could not be divided into tokens. -/
  | broke (fault : Fault)

namespace Repl

def start (environment : Environment) (settings : Settings) : Repl := ⟨environment, settings, []⟩

/-- The prompt for the next line. -/
def prompt (repl : Repl) : String :=
  if repl.waiting.isEmpty then repl.settings.prompt else repl.settings.continuationPrompt

def limits (repl : Repl) : Limits := .ofCallDepth repl.settings.maxCallDepth

/-- Adds a line to those that wait, and runs them if they are complete. -/
def gather (repl : Repl) (line : String) : Repl × Reaction :=
  let lines := repl.waiting ++ [line]
  let source := Text.joinLines lines
  match isComplete source with
  | .error fault => ({ repl with waiting := lines }, .broke fault)
  | .ok false => ({ repl with waiting := lines }, .waited)
  | .ok true =>
    let outcome := execute repl.limits repl.environment source
    ({ repl with waiting := [], environment := outcome.environment }, .ran source outcome)

/-- Takes in one line. -/
def feed (repl : Repl) (line : String) : Repl × Reaction :=
  let word := Text.trim line
  if !repl.waiting.isEmpty then repl.gather line
  else if word = ":quit" || word = ":q" then (repl, .quit)
  else if word = ":env" then (repl, .listed repl.environment)
  else if word.isEmpty then (repl, .ignored)
  else repl.gather line

end Repl

/-- The names in sight with their values as a table, ordered by name. -/
def Environment.listing (rendering : Nat) (env : Environment) : Except Fault Terminal.Table := do
  let sorted := env.items.mergeSort fun a b => decide (a.1 ≤ b.1)
  let rows ← sorted.mapM fun (name, value) => do
    let text ← value.displayWithin rendering
    return [name, value.kind.label, text].map Terminal.Cell.ofText
  return ⟨[⟨"Name", .left⟩, ⟨"Kind", .left⟩, ⟨"Value", .left⟩], rows⟩

namespace Outcome

/-- What a program shows on a terminal. -/
def shown (outcome : Outcome) : Except Fault String :=
  let paragraph := fun s : String => if s.isEmpty then "" else Terminal.displayed s ++ "\n"
  match outcome.ending, outcome.errorMessage? with
  | .fault f, _ => .error f
  | _, none => .ok (paragraph outcome.text)
  | _, some message => .ok (paragraph outcome.text ++ paragraph (errorLine message))

end Outcome

namespace Reaction

/-- What is shown in reaction to a line. -/
def shown : Reaction → Except Fault String
  | .quit | .ignored | .waited => .ok ""
  | .listed env => (env.listing Limits.default.rendering).map (·.render)
  | .ran _ outcome => outcome.shown
  | .broke fault => .error fault

/-- The fault that keeps what a line leads to from being shown. -/
def fault? (reaction : Reaction) : Option Fault :=
  match reaction.shown with
  | .error fault => some fault
  | .ok _ => none

/-- Whether the session goes on. It ends at a command to quit and at a fault. -/
def continues : Reaction → Bool
  | .quit => false
  | reaction => reaction.fault?.isNone

end Reaction

/-- A prompt and what was shown in reaction to the line that followed it. -/
structure Exchange where
  prompt : String
  shown : String

/-- A session from start to end. -/
structure Dialogue where
  exchanges : List Exchange
  /-- How many lines were left when the session ended. -/
  unread : Nat
  /-- The fault that ended the session. -/
  fault : Option Fault

namespace Dialogue

/-- Puts an exchange in front of a dialogue. -/
def after (exchange : Exchange) (dialogue : Dialogue) : Dialogue :=
  { dialogue with exchanges := exchange :: dialogue.exchanges }

end Dialogue

namespace Repl

/-- Reads lines up to a command to quit, an interruption or the end of the lines. An
interruption is the absence of a line. -/
def loop (repl : Repl) : List (Option String) → Dialogue
  | [] => ⟨[⟨repl.prompt, "\n"⟩], 0, none⟩
  | none :: rest => ⟨[⟨repl.prompt, "\n"⟩], rest.length, none⟩
  | some line :: rest =>
    let (next, reaction) := repl.feed line
    match reaction.shown with
    | .error fault => ⟨[⟨repl.prompt, ""⟩], rest.length, some fault⟩
    | .ok shown =>
      if reaction.continues then (next.loop rest).after ⟨repl.prompt, shown⟩
      else ⟨[⟨repl.prompt, shown⟩], rest.length, none⟩

end Repl

end PiecewiseLang
