import PiecewiseLang.CommandLine.Arguments
import PiecewiseLang.CommandLine.Files
import PiecewiseLang.Repl
import PiecewiseLang.Terminal.Escapes
import PiecewiseLang.Terminal.Markup

/-! The command line: from the arguments, the files, the environment and the input to what
is written and the exit code. Settings are loaded after the command is known and before its
own arguments are looked at. Sessions are kept apart from the rest, so that they can be held
with a person at a terminal as well as on a text. -/
namespace PiecewiseLang

namespace CommandLine

/-- What a command can see. -/
structure World where
  arguments : List String
  files : Files
  vars : Settings.Variables
  input : String

/-- What a command can break down with. -/
inductive Crash where
  | fault (fault : Fault)
  | settings (failure : Settings.Failure)
  /-- A directory was to be read as a file. -/
  | directory
  /-- A path or a name on it was too long. -/
  | pathTooLong
  /-- A prompt could not be shown. -/
  | markup (failure : Terminal.Markup.Failure)

/-- What a command leaves. -/
structure Result where
  exitCode : Nat
  output : String
  errors : String
  crash : Option Crash

namespace Result

def success (output : String) : Result := ⟨0, output, "", none⟩

def failure (output errors : String) : Result := ⟨1, output, errors, none⟩

def crashed (output : String) (crash : Crash) : Result := ⟨1, output, "", some crash⟩

/-- The arguments make no sense. -/
def usage : Result := ⟨2, "", "", none⟩

/-- Puts text in front of what was written as errors. -/
def afterErrors (errors : String) (result : Result) : Result :=
  { result with errors := errors ++ result.errors }

end Result

def versionLine : String := "Slope 0.3.0\n"

def banner : String :=
  versionLine ++ "End statements with `;`. Type :env for bindings, :quit to exit.\n"

def settingsFile : String := "slope.toml"

inductive Command where
  | run | eval | repl | tokens | ast
deriving DecidableEq, Repr

namespace Command

def ofName? : String → Option Command
  | "run" => some .run
  | "eval" => some .eval
  | "repl" => some .repl
  | "tokens" => some .tokens
  | "ast" => some .ast
  | _ => none

def options : Command → List OptionSpec
  | .run => [⟨"interactive", some 'i', false⟩]
  | _ => []

end Command

def globalOptions : List OptionSpec :=
  [⟨"version", some 'v', false⟩, ⟨"config", some 'c', true⟩, ⟨"log-level", none, true⟩]

/-- What a command comes to: a result, or a session that goes on after what the command has
written, with the input that is left for it. -/
inductive Plan where
  | finish (result : Result)
  | interact (before : Result) (repl : Repl) (input : String)

namespace Plan

def afterErrors (errors : String) : Plan → Plan
  | .finish result => .finish (result.afterErrors errors)
  | .interact before repl input => .interact (before.afterErrors errors) repl input

end Plan

/-- A text as a command writes it, on lines of its own. -/
def written (s : String) : String := Terminal.withoutEscapes s ++ "\n"

/-- A text on lines of its own; an empty text takes no line. -/
def onLines (s : String) : String := if s.isEmpty then "" else written s

/-- The result of running a program, and the environment after it if it finished. -/
def runProgram (settings : Settings) (source : String) : Result × Option Environment :=
  let outcome := execute (.ofCallDepth settings.maxCallDepth) .initial source
  match outcome.ending, outcome.errorMessage? with
  | .fault f, _ => (.crashed "" (.fault f), none)
  | _, none => (.success (onLines outcome.text), some outcome.environment)
  | _, some message =>
    (.failure (onLines outcome.text) (written (Outcome.errorLine message)), none)

/-- A session in an environment, after what was written before it. -/
def session (settings : Settings) (env : Environment) (output input : String) : Plan :=
  .interact (.success (output ++ banner)) (.start env settings) input

/-- Runs a program, and then a session in its environment where one is asked for. -/
def runSource (settings : Settings) (source : String) (interactive : Bool) (input : String) :
    Plan :=
  match runProgram settings source with
  | (result, some env) =>
    if interactive then session settings env result.output input else .finish result
  | (result, none) => .finish result

/-- Whether a text can be a path at all. -/
def isPath (s : String) : Bool := !s.toList.contains '\x00'

/-- Runs the program in a file, or the one on the input where the path is a dash. -/
def runFile (world : World) (settings : Settings) (path : String) (interactive : Bool) : Plan :=
  let path := Files.normalize path
  if !isPath path then .finish .usage
  else if path = "-" then runSource settings world.input interactive ""
  else match world.files.find path with
    | .missing =>
      .finish (.failure "" (written (Outcome.errorLine ("File not found: " ++ path))))
    | .directory => .finish (.crashed "" .directory)
    | .tooLong => .finish (.crashed "" .pathTooLong)
    | .file text =>
      runSource settings (String.ofList (Text.universalNewlines text.toList)) interactive
        world.input

/-- The tokens of a text as a table. -/
def tokenTable (tokens : List Token) : Terminal.Table :=
  ⟨[⟨"Pos", .right⟩, ⟨"Kind", .left⟩, ⟨"Text", .left⟩],
    tokens.map fun t =>
      [toString t.position, String.ofList (t.kind.label.toList.map Char.toUpper), t.text].map
        Terminal.Cell.ofText⟩

def showTokens (source : String) : Result :=
  match tokenize source with
  | .error f => .crashed "" (.fault f)
  | .ok tokens => .success (tokenTable tokens).render

/-- The statements of a text in their written form, one to a line. -/
def showStatements (source : String) : Result :=
  match parseProgram Limits.default.nesting source with
  | .error (.error e) => .failure "" (written (Outcome.errorLine e.message))
  | .error (.fault f) => .crashed "" (.fault f)
  | .ok program => .success (String.join (program.map fun s => written s.render))

/-- Carries out a command with its own arguments. -/
def perform (world : World) (settings : Settings) (command : Command)
    (arguments : Arguments.Parsed) : Plan :=
  match command, arguments.positionals with
  | .run, [path] => runFile world settings path (arguments.has "interactive")
  | .eval, [source] => .finish (runProgram settings source).1
  | .tokens, [source] => .finish (showTokens source)
  | .ast, [source] => .finish (showStatements source)
  | .repl, [] => session settings .initial "" world.input
  | _, _ => .finish .usage

/-- What is said about settings with complaints. -/
def complaintLine (complaints : List Settings.Complaint) : String :=
  let count := complaints.length
  "Error: Invalid configuration: " ++ toString count ++ " validation error" ++
    (if count = 1 then "" else "s") ++ " for InterpreterConfig\n"

/-- The path of the settings file: the given one or the usual one. -/
def settingsPath (options : Arguments.Parsed) : String :=
  Files.normalize ((options.value? "config").getD settingsFile)

def loadSettings (world : World) (path : String) : Except Crash Settings.Loaded :=
  match world.files.find path with
  | .directory => .error .directory
  | .tooLong => .error .pathTooLong
  | .missing => .ok (Settings.load .standard path none world.vars)
  | .file text => .ok (Settings.load .standard path (some text) world.vars)

/-- Settings with the level given on the command line, if one is. -/
def applyLevel (level : Option String) (settings : Settings) :
    Except Settings.Failure Settings :=
  match level with
  | none => .ok settings
  | some name => (settings.withLevel name).mapError .invalid

/-- The warnings of a log, each on a line of its own. -/
def warningLines (log : List Record) : String :=
  String.join ((log.filter (·.level = .warning)).map fun r => r.message ++ "\n")

/-- Carries out a command, given the options before it and the arguments after it. -/
def dispatch (world : World) (options : Arguments.Parsed) (command : Command)
    (arguments : List String) : Plan :=
  match loadSettings world (settingsPath options) with
  | .error crash => .finish (.crashed "" crash)
  | .ok loaded =>
    let plan : Plan :=
      match loaded.result.bind (applyLevel (options.value? "log-level")) with
      | .error (.invalid complaints) => .finish (.failure "" (complaintLine complaints))
      | .error failure => .finish (.crashed "" (.settings failure))
      | .ok settings =>
        match Arguments.parse command.options true arguments with
        | none => .finish .usage
        | some parsed => perform world settings command parsed
    plan.afterErrors (warningLines loaded.log)

/-- The options before the command, the command, and the arguments after it. -/
def split? (arguments : List String) : Option (Arguments.Parsed × Command × List String) := do
  let options ← Arguments.parse globalOptions false arguments
  match options.positionals with
  | [] => none
  | name :: rest => return (options, ← Command.ofName? name, rest)

/-- Whether the version is asked for, which goes before any command. What stands where the
name of a command should be and is none may ask for it as well. -/
def asksVersion (arguments : List String) : Bool :=
  let asks := fun options : Arguments.Parsed => options.has "version"
  match Arguments.parse globalOptions false arguments with
  | none => false
  | some options =>
    let isCommand := options.positionals.head?.any fun name => (Command.ofName? name).isSome
    asks options || (!isCommand &&
      (Arguments.parse globalOptions false options.positionals).any asks)

def plan (world : World) : Plan :=
  if asksVersion world.arguments then .finish (.success versionLine)
  else match split? world.arguments with
    | none => .finish .usage
    | some (options, command, arguments) =>
      if isPath (settingsPath options) then dispatch world options command arguments
      else .finish .usage

/-- What is on the terminal after exchanges: all of them, or those before the first prompt
that cannot be shown. -/
def shown : List Exchange → String × Option Terminal.Markup.Failure
  | [] => ("", none)
  | exchange :: rest =>
    match Terminal.Markup.displayed exchange.prompt with
    | .error failure => ("", some failure)
    | .ok prompt =>
      let (text, failure) := shown rest
      (prompt ++ exchange.shown ++ text, failure)

/-- Carries a session to its end on the lines of an input. -/
def converse (before : Result) (repl : Repl) (input : String) : Result :=
  let dialogue := repl.loop ((Text.inputLines input).map some)
  let (text, failure) := shown dialogue.exchanges
  let crash := match failure with
    | some f => some (Crash.markup f)
    | none => dialogue.fault.map Crash.fault
  { before with
    output := before.output ++ text
    exitCode := if crash.isSome then 1 else before.exitCode
    crash }

/-- The whole program. Line ends of every kind divide the input. -/
def run (world : World) : Result :=
  let input := String.ofList (Text.universalNewlines world.input.toList)
  match plan { world with input } with
  | .finish result => result
  | .interact before repl input => converse before repl input

/-- The paths of the files that arguments make a command look at. -/
def filesWanted (arguments : List String) : List String :=
  match split? arguments with
  | none => []
  | some (options, command, rest) =>
    let own := ((Arguments.parse command.options true rest).map (·.positionals)).getD []
    settingsPath options :: if command = .run then own.map Files.normalize else []

/-- Whether a command reads the whole input before it begins. -/
def wantsInput (arguments : List String) : Bool := (filesWanted arguments).contains "-"

end CommandLine

end PiecewiseLang
