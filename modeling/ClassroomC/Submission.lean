import ClassroomC.Validation
import ClassroomC.Parser.Program
import ClassroomC.Binding
import ClassroomC.Exec
import ClassroomC.Verdict
import ClassroomC.Exercise
/-!
# Running a submission

A submission goes through the gate, is read, has its store prepared, and
runs. The first stage that fails decides the outcome, and a failed run shows
no output and no warnings, even if it printed before it failed:

* the gate or the reader refuses it: a compile error;
* preparing or running it faults: a runtime error, named by its fault;
* the host cannot convert a numeral, lay out a `printf` conversion or
  catch a `break`: an internal error.

A run that finishes reports its output, its `printf` warnings with their
lines, and the value of the `return` that ended it, if one did. Along the
way a run leaves log records, which the command line shows by their
severity.
-/

namespace ClassroomC

/-- How a run ended. -/
inductive Status where
  | ok | compileError | runtimeError | internalError
  deriving Repr, BEq, DecidableEq

/-- The name of a status. -/
def Status.name : Status → String
  | .ok => "ok"
  | .compileError => "compile_error"
  | .runtimeError => "runtime_error"
  | .internalError => "internal_error"

/-- The severity of a log record, in increasing order. -/
inductive Severity where
  | debug | info | warning | error
  deriving Repr, BEq, DecidableEq

/-- The rank of a severity: records below the threshold are not shown. -/
def Severity.rank : Severity → Nat
  | .debug => 10
  | .info => 20
  | .warning => 30
  | .error => 40

/-- The name of a severity. -/
def Severity.name : Severity → String
  | .debug => "DEBUG"
  | .info => "INFO"
  | .warning => "WARNING"
  | .error => "ERROR"

/-- A log record: its severity, the part of the program that wrote it, and
its message template. -/
structure LogRecord where
  severity : Severity
  source : String
  template : String
  deriving Repr, BEq, DecidableEq

namespace LogRecord

/-- The gate refused the submission. -/
def refused : LogRecord := ⟨.debug, "minic.engine", "validation failed: %s"⟩

/-- The submission was read. -/
def parsed : LogRecord := ⟨.debug, "minic.engine", "parsed %d top-level statement(s)"⟩

/-- The store was prepared. -/
def bound : LogRecord := ⟨.debug, "minic.simulate._binder", "bound %d name(s): %s"⟩

/-- A loop went past the budget. -/
def budgetExceeded : LogRecord :=
  ⟨.warning, "minic.simulate._executor", "loop budget of %d iterations exceeded (line %s)"⟩

/-- The host failed while running the program. -/
def hostFailed : LogRecord := ⟨.error, "minic.engine", "internal error while running program"⟩

/-- The run finished. -/
def finished : LogRecord :=
  ⟨.debug, "minic.engine", "run finished in %.3f ms (%d loop iteration(s), %d warning(s))"⟩

end LogRecord

/-- The outcome of running a submission. -/
structure Outcome where
  status : Status
  output : String := ""
  diagnostic : Option String := none
  warnings : Array String := #[]
  exitCode : Option Int := none
  journal : Array LogRecord := #[]

/-- Whether the run finished. -/
def Outcome.succeeded (outcome : Outcome) : Bool :=
  outcome.status == .ok

/-- The diagnostic of a finished run: its warnings, one per line, or none. -/
def warningDiagnostic (warnings : Array String) : Option String :=
  if warnings.isEmpty then none
  else some ("Format Warning: " ++ "\nFormat Warning: ".intercalate warnings.toList)

/-- The outcome of a run stopped by `error`. -/
def runtimeFailure (error : RuntimeError) (journal : Array LogRecord) : Outcome :=
  { status := .runtimeError
    diagnostic := some s!"Runtime Error ({error.fault.kind}): {error.render}"
    journal }

/-- The outcome of a run the host could not carry on with. -/
def hostFailure (error : HostError) (journal : Array LogRecord) : Outcome :=
  { status := .internalError
    diagnostic := some s!"Internal Error: {error.kind}: {error.message}"
    journal := journal.push .hostFailed }

/-- Check, read, prepare and run `source` under `limits`. -/
def runProgram (limits : Limits) (source : String) : Outcome :=
  match Validation.check source with
  | .error problem =>
    { status := .compileError, diagnostic := some problem.diagnostic, journal := #[.refused] }
  | .ok () =>
    match Parser.parseProgram source with
    | .error (.compile error) =>
      { status := .compileError, diagnostic := some ("Compilation Error: " ++ error.render) }
    | .error (.host error) => hostFailure error #[]
    | .ok program =>
      match program.bind with
      | .error error => runtimeFailure error #[.parsed]
      | .ok store =>
        let journal := #[LogRecord.parsed, LogRecord.bound]
        match execute limits store program.body with
        | .error (.runtime error) =>
          let journal := match error.fault with
            | .loopBudget _ => journal.push .budgetExceeded
            | _ => journal
          runtimeFailure error journal
        | .error (.host error) => hostFailure error journal
        | .ok finished =>
          { status := .ok
            output := finished.machine.output
            diagnostic := warningDiagnostic finished.machine.warnings
            warnings := finished.machine.warnings
            exitCode := finished.exitCode
            journal := journal.push .finished }

/-- Run `source` and judge its output against `expected`; a run that did
not finish never passes. -/
def runExercise (limits : Limits) (source expected : String) : Outcome × Bool :=
  let outcome := runProgram limits source
  (outcome, outcome.succeeded && Verdict.judge outcome.output expected)

/-- Grade a submission of `source` for `exercise`. -/
def grade (limits : Limits) (exercise : Exercise) (source : String) : SubmissionRecord :=
  let (outcome, passed) := runExercise limits source exercise.expectedOutput
  { exerciseId := exercise.id
    code := source
    output := outcome.output
    passed
    diagnostic := outcome.diagnostic }

end ClassroomC
