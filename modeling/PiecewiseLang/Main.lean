import PiecewiseLang.CommandLine

/-! The program as it is started: gathers what the command line looks at, writes the result,
and holds sessions line by line. -/
namespace PiecewiseLang.CommandLine

/-- The files at the given paths that can be read. -/
def gatherFiles (paths : List String) : IO Files := do
  let mut files : Files := []
  for path in paths do
    try files := files ++ [(path, ← IO.FS.readFile path)]
    catch _ => pure ()
  return files

def gatherVariables : IO Settings.Variables := do
  let mut vars : Settings.Variables := []
  for name in [Settings.depthVariable, Settings.levelVariable] do
    if let some value ← IO.getEnv name then
      vars := vars ++ [(name, value)]
  return vars

def write (result : Result) : IO UInt32 := do
  IO.print result.output
  IO.eprint result.errors
  return UInt32.ofNat result.exitCode

/-- Holds a session at a terminal. -/
partial def hold (repl : Repl) : IO UInt32 := do
  let .ok prompt := Terminal.Markup.displayed repl.prompt | return 1
  IO.print prompt
  (← IO.getStdout).flush
  let line ← (← IO.getStdin).getLine
  if line.isEmpty then
    IO.print "\n"
    return 0
  else
    let (next, reaction) := repl.feed (String.ofList (line.toList.filter (· ≠ '\n')))
    match reaction.shown with
    | .error _ => return 1
    | .ok shown =>
      IO.print shown
      if reaction.continues then hold next else return 0

def start (arguments : List String) : IO UInt32 := do
  let input ← if wantsInput arguments then (← IO.getStdin).readToEnd else pure ""
  let world : World :=
    ⟨arguments, ← gatherFiles (filesWanted arguments), ← gatherVariables,
      String.ofList (Text.universalNewlines input.toList)⟩
  match plan world with
  | .finish result => write result
  | .interact before repl _ =>
    let _ ← write before
    hold repl

end PiecewiseLang.CommandLine

def main (arguments : List String) : IO UInt32 :=
  PiecewiseLang.CommandLine.start arguments
