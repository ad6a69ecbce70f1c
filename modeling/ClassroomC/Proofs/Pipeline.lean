import ClassroomC.Submission
import ClassroomC.Proofs.Runs

/-!
# The stages of a submission

Running a submission checks it, reads it and prepares its store before any
statement runs, and none of that depends on the limits of the run. A source
either stops at one of those stages, with the same outcome under every
limits, or it is *prepared*: read as a program whose run starts from a store,
and its outcome is what running that program's body reports.
-/

namespace ClassroomC

/-- `source` passes the gate and is read as `program`, and the store its run
starts from is `store`. -/
def Prepared (source : String) (program : Program) (store : Store) : Prop :=
  Validation.check source = .ok () ∧ Parser.parseProgram source = .ok program ∧
    program.bind = .ok store

/-- Running `source` under `limits` ends with `ending`: it is prepared, and the
run of its body from the start ends so. -/
def SourceRuns (limits : Limits) (source : String) (ending : Ending) : Prop :=
  ∃ program store, Prepared source program store ∧
    Runs limits (.body program.body) (Machine.start store) 0 ending

namespace Prepared

theorem unique {source : String} {program program' : Program} {store store' : Store}
    (prepared : Prepared source program store) (prepared' : Prepared source program' store') :
    program = program' ∧ store = store' := by
  obtain ⟨_, parsed, bound⟩ := prepared
  obtain ⟨_, parsed', bound'⟩ := prepared'
  rw [parsed] at parsed'
  cases parsed'
  rw [bound] at bound'
  cases bound'
  exact ⟨rfl, rfl⟩

end Prepared

/-- A prepared source reports what the run of its body reports. -/
theorem runProgram_of_prepared {limits : Limits} {source : String} {program : Program}
    {store : Store} (prepared : Prepared source program store) :
    runProgram limits source =
      match execute limits store program.body with
      | .error (.runtime error) =>
        runtimeFailure error (match error.fault with
          | .loopBudget _ => #[LogRecord.parsed, .bound, .budgetExceeded]
          | _ => #[LogRecord.parsed, .bound])
      | .error (.host error) =>
        { status := .internalError
          diagnostic := some s!"Internal Error: {error.kind}: {error.message}"
          journal := #[LogRecord.parsed, .bound, .hostFailed] }
      | .ok finished =>
        { status := .ok
          output := finished.machine.output
          diagnostic := warningDiagnostic finished.machine.warnings
          warnings := finished.machine.warnings
          exitCode := finished.exitCode
          journal := #[LogRecord.parsed, .bound, .finished] } := by
  obtain ⟨checked, parsed, bound⟩ := prepared
  unfold runProgram
  rw [checked, parsed]
  simp only [bound]
  cases execute limits store program.body with
  | error failure =>
      cases failure with
      | runtime error => cases error.fault <;> rfl
      | host error => rfl
  | ok finished => rfl

/-- A source that is not prepared stops before its run, with an outcome that
does not depend on the limits. -/
theorem runProgram_of_unprepared {source : String}
    (unprepared : ∀ program store, ¬ Prepared source program store) (limits limits' : Limits) :
    runProgram limits source = runProgram limits' source := by
  unfold runProgram
  cases checked : Validation.check source with
  | error problem => rfl
  | ok passed =>
      cases passed
      cases parsed : Parser.parseProgram source with
      | error error => cases error <;> rfl
      | ok program =>
          simp only
          cases bound : program.bind with
          | error error => rfl
          | ok store => exact (unprepared program store ⟨checked, parsed, bound⟩).elim

/-- A run that finishes was prepared, and its body ran to an ending that is
not a failure. -/
theorem prepared_of_status_ok {limits : Limits} {source : String}
    (finished : (runProgram limits source).status = .ok) :
    ∃ program store finished, Prepared source program store ∧
      execute limits store program.body = .ok finished := by
  unfold runProgram at finished
  cases checked : Validation.check source with
  | error problem =>
      rw [checked] at finished
      cases finished
  | ok passed =>
      cases passed
      rw [checked] at finished
      cases parsed : Parser.parseProgram source with
      | error error =>
          rw [parsed] at finished
          cases error <;> cases finished
      | ok program =>
          rw [parsed] at finished
          cases bound : program.bind with
          | error error =>
              simp only [bound, runtimeFailure] at finished
              cases finished
          | ok store =>
              simp only [bound] at finished
              cases executed : execute limits store program.body with
              | ok result => exact ⟨program, store, result, ⟨checked, parsed, bound⟩, executed⟩
              | error failure =>
                  rw [executed] at finished
                  cases failure with
                  | runtime error => cases finished
                  | host error => cases finished

end ClassroomC
