import ClassroomC.CommandLine.Invocation
/-!
# The command-line program

Reads what the command line needs from the outside world, the files it
names, the standard input and two environment variables, and hands them to
`CommandLine.respond`; then prints its two streams and exits with its code,
or reports a fault and exits with `1`.
-/

namespace ClassroomC.Console

/-- The text of a file, or none if it cannot be read. -/
def fileContents (name : String) : IO (Option String) := do
  try
    let text ← IO.FS.readFile name
    pure (some text)
  catch _ =>
    pure none

/-- The files the arguments name, read ahead of the run. -/
def namedFiles (words : List String) : IO (List (String × String)) := do
  match CommandLine.read words with
  | .run arguments =>
    let expectedFile := match arguments.expectedFile with
      | some (.value name) => [name]
      | _ => []
    let names := (arguments.source :: expectedFile).filter (· != "-")
    let mut found := []
    for name in names do
      if let some text ← fileContents name then
        found := found ++ [(name, text)]
    pure found
  | _ => pure []

/-- The whole standard input. -/
partial def readInput (stream : IO.FS.Stream) (acc : String) : IO String := do
  let line ← stream.getLine
  if line.isEmpty then pure acc else readInput stream (acc ++ line)

/-- The environment variables that set a limit and are set, with their values. -/
def limitVariables : IO (List (String × String)) := do
  let names := [Limits.loopBudgetName, Limits.maxOutputName].map Limits.variableOf
  let mut found := []
  for name in names do
    if let some value ← IO.getEnv name then
      found := found ++ [(name, value)]
  pure found

end ClassroomC.Console

open ClassroomC in
def main (words : List String) : IO UInt32 := do
  let files ← Console.namedFiles words
  let input ← if words.contains "-" then Console.readInput (← IO.getStdin) "" else pure ""
  let settings ← Console.limitVariables
  let answer := CommandLine.respond {
    words
    input
    environment := fun name => (settings.find? (·.1 == name)).map (·.2)
    fileText := fun name => (files.find? (·.1 == name)).map (·.2) }
  let stdout ← IO.getStdout
  let stderr ← IO.getStderr
  match answer with
  | .ok response =>
    stdout.putStr response.stdout
    stdout.flush
    stderr.putStr response.stderr
    stderr.flush
    pure response.exitCode.toUInt32
  | .error fault =>
    stderr.putStrLn (fault.kind ++ ": " ++ fault.message)
    stderr.flush
    pure 1
