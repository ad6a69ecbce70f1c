import ClassroomC.CommandLine.Arguments
import ClassroomC.Limits
import ClassroomC.Submission
/-!
# Running the command line

One call of the command line reads its words, takes the limits from the
environment (a `--loop-budget` overrides the budget), reads the source and
the expected output, runs the source and, when an expected output is given,
judges the run. The exit code says how it went:

* `0`: the run finished, and passed when an expected output was given;
* `1`: the run failed, or its output did not match;
* `2`: the words were refused, a limit was invalid, or a file could not be read.

An expected output or an expected-output file given nothing, as `=--` gives,
is no text: the call then ends in a fault that it does not handle, once the
step that needs the text is reached.

The output of the run goes to the standard output, ended by a line break;
its diagnostic, the log records that the verbosity lets through, and the
verdict go to the standard error. Without `-v` only warnings and errors are
logged, with one `-v` also progress, with two or more every detail.
-/

namespace ClassroomC.CommandLine

/-- What the command line is given: its words, the standard input, the
environment variables, and the files it can read. -/
structure Invocation where
  words : List String
  input : String
  environment : String → Option String
  fileText : String → Option String

/-- What the command line answers: its exit code and the text of its two
output streams. -/
structure Response where
  exitCode : Nat
  stdout : String
  stderr : String
  deriving Repr, BEq, DecidableEq

/-- A fault that a call does not handle: a step that needs a text was given
nothing. -/
inductive Fault where
  /-- Judging the run needs the expected output as a text. -/
  | expectedWithoutText
  /-- Reading the expected-output file needs its name as a text. -/
  | fileWithoutName
  deriving Repr, BEq, DecidableEq

/-- The kind of a fault. -/
def Fault.kind : Fault → String
  | .expectedWithoutText => "AttributeError"
  | .fileWithoutName => "TypeError"

/-- The message of a fault. -/
def Fault.message : Fault → String
  | .expectedWithoutText => "'list' object has no attribute 'replace'"
  | .fileWithoutName => "expected str, bytes or os.PathLike object, not list"

/-- The least severity a verbosity lets through. -/
def threshold (verbosity : Nat) : Nat :=
  match verbosity with
  | 0 => Severity.warning.rank
  | 1 => Severity.info.rank
  | _ => Severity.debug.rank

/-- The line of a log record, if the verbosity lets it through. -/
def logLine (verbosity : Nat) (record : LogRecord) : String :=
  if record.severity.rank ≥ threshold verbosity then
    s!"LOG {record.severity.name} {record.source}: {record.template}\n"
  else ""

/-- A limit was invalid. -/
def configurationRefused : LogRecord := ⟨.error, "minic", "invalid configuration: %s"⟩

/-- A file could not be read. -/
def readFailed : LogRecord := ⟨.error, "minic", "%s"⟩

/-- The run is over. -/
def runOver : LogRecord := ⟨.info, "minic", "finished in %.3f ms with status %s"⟩

/-- The limits of the run, or none if one is invalid. -/
def limitsOf (invocation : Invocation) (arguments : Arguments) : Option Limits :=
  match Limits.ofEnvironment invocation.environment, arguments.loopBudget with
  | .error _, _ => none
  | .ok limits, none => some limits
  | .ok _, some .nothing => none
  | .ok limits, some (.value budget) =>
    if budget ≤ 0 then none else some { limits with loopBudget := budget.toNat }

/-- Read the text that `name` stands for: the standard input for `-`, which
is empty once it has been read, and otherwise a file. Gives the text and the
standard input left. -/
def readText (invocation : Invocation) (input : String) (name : String) :
    Option (String × String) :=
  if name == "-" then some (input, "")
  else (invocation.fileText name).map fun text => (text, input)

/-- Run the source with the arguments read. -/
def runWith (invocation : Invocation) (arguments : Arguments) : Except Fault Response := do
  let log := logLine arguments.verbosity
  match limitsOf invocation arguments with
  | none => pure ⟨2, "", log configurationRefused⟩
  | some limits =>
    match readText invocation invocation.input arguments.source with
    | none => pure ⟨2, "", log readFailed⟩
    | some (source, input) =>
      let expected ← match arguments.expectedFile with
        | some (.value name) => pure ((readText invocation input name).map fun read => some read.1)
        | some .nothing => throw .fileWithoutName
        | none => pure (some none)
      match expected with
      | none => pure ⟨2, "", log readFailed⟩
      | some expectedFile =>
        let expected := match expectedFile with
          | some text => some (Given.value text)
          | none => arguments.expected
        let outcome := runProgram limits source
        let stdout :=
          if !outcome.output.isEmpty && !outcome.output.endsWith "\n" then outcome.output ++ "\n"
          else outcome.output
        let diagnostic := match outcome.diagnostic with
          | some text => if text.isEmpty then "" else text ++ "\n"
          | none => ""
        let stderr := String.join (outcome.journal.toList.map log) ++ diagnostic ++ log runOver
        if !outcome.succeeded then pure ⟨1, stdout, stderr⟩
        else
          match expected with
          | some (.value expected) =>
            if Verdict.judge outcome.output expected then pure ⟨0, stdout, stderr ++ "PASSED\n"⟩
            else pure ⟨1, stdout, stderr ++ "FAILED\n"⟩
          | some .nothing => throw .expectedWithoutText
          | none => pure ⟨0, stdout, stderr⟩

/-- Answer one call of the command line. -/
def respond (invocation : Invocation) : Except Fault Response :=
  match read invocation.words with
  | .help => pure ⟨0, helpText, ""⟩
  | .refused refusal => pure ⟨2, "", usage ++ s!"minic: error: {refusal.message}\n"⟩
  | .run arguments => runWith invocation arguments

end ClassroomC.CommandLine
