import PiecewiseLang.Evaluation.Traced

/-! Log records: what the parts of the interpreter note down while they work. -/
namespace PiecewiseLang

inductive LogLevel where
  | debug | info | warning | error
deriving DecidableEq, Repr

namespace LogLevel

def name : LogLevel → String
  | .debug => "DEBUG"
  | .info => "INFO"
  | .warning => "WARNING"
  | .error => "ERROR"

def all : List LogLevel := [.debug, .info, .warning, .error]

def ofName? (name : String) : Option LogLevel := all.find? (·.name = name)

end LogLevel

/-- The parts of the interpreter that keep a log. -/
inductive Component where
  | parser | evaluator | session | settings
deriving DecidableEq, Repr

inductive Record where
  | parsed (statements : Nat)
  | called (call : CallRecord)
  | failed (statement : Statement) (error : EvalError)
  | executed (statements : Nat)
  | settingsLoaded (path : String)
  /-- A variable of the environment that was ignored, with the value it had and the reason. -/
  | variableIgnored (name value reason : String)

namespace Record

def level : Record → LogLevel
  | .variableIgnored .. => .warning
  | _ => .debug

def component : Record → Component
  | .parsed _ => .parser
  | .called _ => .evaluator
  | .failed .. | .executed _ => .session
  | .settingsLoaded _ | .variableIgnored .. => .settings

def message : Record → String
  | .parsed n => "Parsed " ++ toString n ++ " statement(s)"
  | .called call => "Calling " ++ call.function ++ " at depth " ++ toString call.depth
  | .failed statement error =>
    "Statement `" ++ statement.render ++ "` failed: " ++ error.message
  | .executed n => "Executed " ++ toString n ++ " statement(s)"
  | .settingsLoaded path => "Loaded interpreter config from " ++ path
  | .variableIgnored name value reason =>
    "Ignoring " ++ name ++ "=" ++ Text.quoted value ++ ": " ++ reason

end Record

end PiecewiseLang
