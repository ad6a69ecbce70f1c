import ClassroomC.Proofs.Pipeline
import ClassroomC.Proofs.Steps

/-!
# The limits of a run are cut-offs

Raising the loop budget or the output limit changes nothing about a run
except where the lower limit stopped it. A run that stays within the lower
limits runs step for step the same under the higher ones; a run under the
higher limits that counts more iterations than the lower budget is stopped
by that budget under the lower limits.

The argument is one induction over the rules of `Runs`: the only rules that
read the limits are the budget checks of the three loops and the output
check of `printf`, and each of them gives the same answer under higher
limits unless it stopped the run.
-/

namespace ClassroomC

/-- A run under `limits` that ends so ends the same way under `larger`: it
did not stop at the loop budget, and it stopped at the output limit only if
`larger` has the same limit. -/
def Ending.Survives (limits larger : Limits) : Ending → Prop
  | .done .. => True
  | .failed failure _ =>
    (∀ line, failure ≠ Exec.budgetExceeded limits line) ∧
      ∀ line, failure = .runtime ⟨.outputLimit limits.maxOutput, some line⟩ →
        larger.maxOutput = limits.maxOutput

namespace Ending

theorem survives_of_exit {limits larger : Limits} {ending ending' : Ending}
    (exits : ending.exit? = some ending') (survives : ending'.Survives limits larger) :
    ending.Survives limits larger := by
  cases ending with
  | done machine iterations flow => trivial
  | failed failure count =>
      cases exits
      exact survives

theorem iterations_of_exit {ending ending' : Ending} (exits : ending.exit? = some ending') :
    ending'.iterations = ending.iterations := by
  cases ending with
  | done machine iterations flow =>
      cases flow with
      | next | continueLoop => cases exits
      | breakLoop | returned _ =>
          cases exits
          rfl
  | failed failure count =>
      cases exits
      rfl

/-- Every ending of a run under `limits` either survives a change to
`larger`, or is a stop at the loop budget or at the output limit of
`limits`. -/
theorem survives_or_limited (limits larger : Limits) (ending : Ending) :
    ending.Survives limits larger ∨
      (∃ line count, ending = .failed (Exec.budgetExceeded limits line) count) ∨
      ∃ line count, ending = .failed (.runtime ⟨.outputLimit limits.maxOutput, some line⟩) count := by
  cases ending with
  | done machine iterations flow => exact .inl trivial
  | failed failure count =>
      by_cases overBudget : ∃ line, failure = Exec.budgetExceeded limits line
      · obtain ⟨line, rfl⟩ := overBudget
        exact .inr (.inl ⟨line, count, rfl⟩)
      · by_cases overOutput : ∃ line, failure = .runtime ⟨.outputLimit limits.maxOutput, some line⟩
        · obtain ⟨line, rfl⟩ := overOutput
          exact .inr (.inr ⟨line, count, rfl⟩)
        · refine .inl ⟨fun line stopped => overBudget ⟨line, stopped⟩, ?_⟩
          intro line stopped
          exact (overOutput ⟨line, stopped⟩).elim

end Ending

theorem Machine.print_raise {machine machine' : Machine} {limit larger : Nat}
    {format : String} {args : List Expr} {line : Nat} (raised : limit ≤ larger)
    (printed : machine.print limit format args line = .ok machine') :
    machine.print larger format args line = .ok machine' := by
  obtain ⟨rendered, renders, fits, rfl⟩ := Machine.print_ok printed
  exact Machine.print_of_render renders (Nat.le_trans fits raised)

theorem Machine.print_error_raise {machine : Machine} {limit larger : Nat}
    {format : String} {args : List Expr} {line : Nat} {failure : Failure}
    (refused : machine.print limit format args line = .error failure)
    (kept : failure = .runtime ⟨.outputLimit limit, some line⟩ → larger = limit) :
    machine.print larger format args line = .error failure := by
  rcases Machine.print_error refused with renderFails | ⟨rendered, renders, overLimit, rfl⟩
  · unfold Machine.print
    rw [renderFails]
    rfl
  · obtain rfl := kept rfl
    exact refused

/-- A run that survives the change to larger limits is a run under them. -/
theorem Runs.raise {limits larger : Limits} (budget : limits.loopBudget ≤ larger.loopBudget)
    (output : limits.maxOutput ≤ larger.maxOutput) {code : Code} {machine : Machine}
    {iterations : Nat} {ending : Ending} (ran : Runs limits code machine iterations ending)
    (survives : ending.Survives limits larger) : Runs larger code machine iterations ending := by
  induction ran with
  | declare declared => exact .declare declared
  | declareFails refused => exact .declareFails refused
  | declareArray => exact .declareArray
  | assign assigned => exact .assign assigned
  | assignFails refused => exact .assignFails refused
  | print printed => exact .print (Machine.print_raise output printed)
  | @printFails machine iterations format args line failure refused =>
      exact .printFails (Machine.print_error_raise refused (survives.2 line))
  | breakLoop => exact .breakLoop
  | continueLoop => exact .continueLoop
  | returnValue evaluated => exact .returnValue evaluated
  | returnFails refused => exact .returnFails refused
  | returnNothing => exact .returnNothing
  | cond _ arms => exact .cond (arms survives)
  | forLoop _ _ initialized loop => exact .forLoop (initialized trivial) (loop survives)
  | forInitStops _ stops initialized => exact .forInitStops (initialized survives) stops
  | whileLoop _ loop => exact .whileLoop (loop survives)
  | doWhile _ loop => exact .doWhile (loop survives)
  | partSome _ ran => exact .partSome (ran survives)
  | partNone => exact .partNone
  | bodyNil => exact .bodyNil
  | bodyCons _ _ first rest => exact .bodyCons (first trivial) (rest survives)
  | bodyStops _ stops first => exact .bodyStops (first survives) stops
  | branchesElse _ ran => exact .branchesElse (ran survives)
  | branchTaken chosen _ ran => exact .branchTaken chosen (ran survives)
  | branchSkipped skipped _ rest => exact .branchSkipped skipped (rest survives)
  | branchFails refused => exact .branchFails refused
  | forFails refused => exact .forFails refused
  | forEnds ended => exact .forEnds ended
  | @forOverBudget machine iterations condition step body line held spent =>
      exact (survives.1 line rfl).elim
  | forExits held within _ exits ran =>
      exact .forExits held (Nat.lt_of_lt_of_le within budget)
        (ran (Ending.survives_of_exit exits survives)) exits
  | forStepStops held within _ latched _ stops ran stepped =>
      exact .forStepStops held (Nat.lt_of_lt_of_le within budget) (ran trivial) latched
        (stepped survives) stops
  | forRepeats held within _ latched _ _ ran steppedOn loop =>
      exact .forRepeats held (Nat.lt_of_lt_of_le within budget) (ran trivial) latched
        (steppedOn trivial) (loop survives)
  | whileFails refused => exact .whileFails refused
  | whileEnds ended => exact .whileEnds ended
  | @whileOverBudget machine iterations condition body line held spent =>
      exact (survives.1 line rfl).elim
  | whileExits held within _ exits ran =>
      exact .whileExits held (Nat.lt_of_lt_of_le within budget)
        (ran (Ending.survives_of_exit exits survives)) exits
  | whileRepeats held within _ latched _ ran loop =>
      exact .whileRepeats held (Nat.lt_of_lt_of_le within budget) (ran trivial) latched
        (loop survives)
  | @doOverBudget machine iterations body condition line spent =>
      exact (survives.1 line rfl).elim
  | doExits within _ exits ran =>
      exact .doExits (Nat.lt_of_lt_of_le within budget)
        (ran (Ending.survives_of_exit exits survives)) exits
  | doFails within _ latched refused ran =>
      exact .doFails (Nat.lt_of_lt_of_le within budget) (ran trivial) latched refused
  | doEnds within _ latched ended ran =>
      exact .doEnds (Nat.lt_of_lt_of_le within budget) (ran trivial) latched ended
  | doRepeats within _ latched held _ ran loop =>
      exact .doRepeats (Nat.lt_of_lt_of_le within budget) (ran trivial) latched held
        (loop survives)

theorem Ending.done_within {limits : Limits} {machine : Machine} {count : Nat} {flow : Flow}
    (within : (Ending.done machine count flow).iterations ≤ limits.loopBudget ∨
      ∃ line, Ending.done machine count flow =
        .failed (Exec.budgetExceeded limits line) (limits.loopBudget + 1)) :
    count ≤ limits.loopBudget := by
  rcases within with bounded | ⟨line, impossible⟩
  · exact bounded
  · cases impossible

/-- A run that starts within the budget counts at most the budget, unless the
budget stopped it; then it counted the one iteration past it. -/
theorem Runs.iterations_within {limits : Limits} {code : Code} {machine : Machine}
    {iterations : Nat} {ending : Ending} (ran : Runs limits code machine iterations ending)
    (start : iterations ≤ limits.loopBudget) :
    ending.iterations ≤ limits.loopBudget ∨
      ∃ line, ending = .failed (Exec.budgetExceeded limits line) (limits.loopBudget + 1) := by
  induction ran with
  | declare | declareFails | declareArray | assign | assignFails | print | printFails
  | breakLoop | continueLoop | returnValue | returnFails | returnNothing | partNone | bodyNil
  | branchFails | forFails | forEnds | whileFails | whileEnds => exact .inl start
  | cond _ arms | forInitStops _ _ arms | whileLoop _ arms | doWhile _ arms | partSome _ arms
  | bodyStops _ _ arms | branchesElse _ arms | branchTaken _ _ arms | branchSkipped _ _ arms =>
      exact arms start
  | forLoop _ _ initialized loop | bodyCons _ _ initialized loop =>
      exact loop (Ending.done_within (initialized start))
  | @forOverBudget machine iterations condition step body line held spent
  | @whileOverBudget machine iterations condition body line held spent
  | @doOverBudget machine iterations body condition line spent =>
      have exhausted : iterations = limits.loopBudget := Nat.le_antisymm start spent
      exact .inr ⟨line, by rw [exhausted]⟩
  | forExits _ within _ exits ran | whileExits _ within _ exits ran | doExits within _ exits ran =>
      rcases ran within with bounded | ⟨line, rfl⟩
      · exact .inl (Ending.iterations_of_exit exits ▸ bounded)
      · cases exits
        exact .inr ⟨line, rfl⟩
  | forStepStops _ within _ _ _ _ ran stepped =>
      exact stepped (Ending.done_within (ran within))
  | forRepeats _ within _ _ _ _ ran steppedOn loop =>
      exact loop (Ending.done_within (steppedOn (Ending.done_within (ran within))))
  | whileRepeats _ within _ _ _ ran loop | doRepeats within _ _ _ _ ran loop =>
      exact loop (Ending.done_within (ran within))
  | doFails within _ _ _ ran | doEnds within _ _ _ ran =>
      exact .inl (Ending.done_within (ran within))

/-- The characters a machine has printed are those of its output, within
`limit`. -/
def Machine.Printed (limit : Nat) (machine : Machine) : Prop :=
  machine.printed = machine.output.length ∧ machine.printed ≤ limit

/-- A run keeps the output within the output limit, and the count of printed
characters equal to its length. -/
theorem Runs.printed {limits : Limits} {code : Code} {machine : Machine} {iterations : Nat}
    {ending : Ending} (ran : Runs limits code machine iterations ending)
    (bounded : machine.Printed limits.maxOutput) :
    ending.Leaves (Machine.Printed limits.maxOutput) := by
  induction ran with
  | declare declared =>
      obtain ⟨store, _, rfl⟩ := Machine.declare_ok declared
      exact bounded
  | declareArray =>
      show (Machine.declareArray _ _ _ _).Printed _
      rw [Machine.declareArray_eq]
      exact bounded
  | assign assigned =>
      obtain ⟨store, _, rfl⟩ := Machine.assign_ok assigned
      exact bounded
  | print printed =>
      obtain ⟨rendered, _, fits, rfl⟩ := Machine.print_ok printed
      refine ⟨?_, fits⟩
      simp only [Machine.printedWith, String.length_append, bounded.1]
  | breakLoop | continueLoop | returnValue | returnNothing | partNone | bodyNil | forEnds
  | whileEnds => exact bounded
  | declareFails | assignFails | printFails | returnFails | branchFails | forFails
  | whileFails | forOverBudget | whileOverBudget | doOverBudget | doFails => trivial
  | cond _ arms | forInitStops _ _ arms | whileLoop _ arms | doWhile _ arms | partSome _ arms
  | bodyStops _ _ arms | branchesElse _ arms | branchTaken _ _ arms | branchSkipped _ _ arms =>
      exact arms bounded
  | forLoop _ _ initialized loop | bodyCons _ _ initialized loop =>
      exact loop (initialized bounded)
  | forExits _ _ _ exits ran | whileExits _ _ _ exits ran | doExits _ _ exits ran =>
      exact Ending.leaves_of_exit exits (ran bounded)
  | forStepStops _ _ _ _ _ _ ran stepped => exact stepped (ran bounded)
  | forRepeats _ _ _ _ _ _ ran steppedOn loop => exact loop (steppedOn (ran bounded))
  | whileRepeats _ _ _ _ _ ran loop => exact loop (ran bounded)
  | doEnds _ _ _ _ ran => exact ran bounded
  | doRepeats _ _ _ _ _ ran loop => exact loop (ran bounded)

/-- Under larger limits a submission reports what it reports under smaller
ones, unless the smaller loop budget or output limit stopped its run. -/
theorem runProgram_cutoff {limits larger : Limits}
    (budget : limits.loopBudget ≤ larger.loopBudget)
    (output : limits.maxOutput ≤ larger.maxOutput) (source : String) :
    runProgram limits source = runProgram larger source ∨
      (∃ line, runProgram limits source =
        runtimeFailure ⟨.loopBudget limits.loopBudget, some line⟩
          #[.parsed, .bound, .budgetExceeded]) ∨
      ∃ line, runProgram limits source =
        runtimeFailure ⟨.outputLimit limits.maxOutput, some line⟩ #[.parsed, .bound] := by
  by_cases prepared : ∃ program store, Prepared source program store
  · obtain ⟨program, store, prepared⟩ := prepared
    obtain ⟨ending, ran⟩ := Runs.body_exists limits (Machine.start store) 0 program.body
    rw [runProgram_of_prepared prepared, execute_eq_of_runs ran]
    rcases Ending.survives_or_limited limits larger ending with
      survives | ⟨line, count, rfl⟩ | ⟨line, count, rfl⟩
    · left
      rw [runProgram_of_prepared prepared, execute_eq_of_runs (ran.raise budget output survives)]
    · exact .inr (.inl ⟨line, rfl⟩)
    · exact .inr (.inr ⟨line, rfl⟩)
  · left
    exact runProgram_of_unprepared
      (fun program store ready => prepared ⟨program, store, ready⟩) limits larger

/-- A submission that finishes under some limits finishes the same way under
larger ones; its output fits the smaller output limit, and its run counted
at most the smaller budget. -/
theorem runProgram_raise_of_ok {limits larger : Limits}
    (budget : limits.loopBudget ≤ larger.loopBudget)
    (output : limits.maxOutput ≤ larger.maxOutput) {source : String}
    (finished : (runProgram limits source).status = .ok) :
    runProgram larger source = runProgram limits source ∧
      (runProgram limits source).output.length ≤ limits.maxOutput ∧
      ∀ ending, SourceRuns limits source ending → ending.iterations ≤ limits.loopBudget := by
  obtain ⟨program, store, result, prepared, executed⟩ := prepared_of_status_ok finished
  obtain ⟨ending, ran⟩ := Runs.body_exists limits (Machine.start store) 0 program.body
  have ended : ∃ flow, ending = .done result.machine result.iterations flow := by
    rw [execute_eq_of_runs ran] at executed
    cases ending with
    | done machine iterations flow =>
        -- a jump that leaves the body fails, so the run ended normally
        cases flow <;> cases executed <;> exact ⟨_, rfl⟩
    | failed failure count => cases executed
  obtain ⟨flow, rfl⟩ := ended
  refine ⟨?_, ?_, ?_⟩
  · rcases runProgram_cutoff budget output source with same | ⟨line, stopped⟩ | ⟨line, stopped⟩
    · exact same.symm
    · rw [stopped] at finished
      cases finished
    · rw [stopped] at finished
      cases finished
  · have printed : result.machine.Printed limits.maxOutput :=
      ran.printed ⟨rfl, Nat.zero_le _⟩
    rw [runProgram_of_prepared prepared, executed]
    show result.machine.output.length ≤ limits.maxOutput
    rw [← printed.1]
    exact printed.2
  · rintro ending ⟨program', store', prepared', ran'⟩
    obtain ⟨rfl, rfl⟩ := prepared.unique prepared'
    obtain rfl := ran.deterministic ran'
    exact Ending.done_within (ran.iterations_within (Nat.zero_le _))

/-- With the same output limit, a run under a larger budget that counts more
iterations than a smaller budget is stopped by the smaller budget. -/
theorem runProgram_over_budget {limits larger : Limits}
    (budget : limits.loopBudget ≤ larger.loopBudget)
    (sameOutput : limits.maxOutput = larger.maxOutput) {source : String} {ending' : Ending}
    (ranLarger : SourceRuns larger source ending')
    (counted : limits.loopBudget < ending'.iterations) :
    ∃ line, runProgram limits source =
      runtimeFailure ⟨.loopBudget limits.loopBudget, some line⟩
        #[.parsed, .bound, .budgetExceeded] := by
  obtain ⟨program, store, prepared, ran'⟩ := ranLarger
  obtain ⟨ending, ran⟩ := Runs.body_exists limits (Machine.start store) 0 program.body
  rw [runProgram_of_prepared prepared, execute_eq_of_runs ran]
  have stopped : ¬ ending.Survives limits larger := by
    intro survives
    obtain rfl := (ran.raise budget (Nat.le_of_eq sameOutput) survives).deterministic ran'
    rcases ran.iterations_within (Nat.zero_le _) with bounded | ⟨line, rfl⟩
    · exact Nat.lt_irrefl _ (Nat.lt_of_lt_of_le counted bounded)
    · exact survives.1 line rfl
  rcases Ending.survives_or_limited limits larger ending with
    survives | ⟨line, count, rfl⟩ | ⟨line, count, rfl⟩
  · exact (stopped survives).elim
  · exact ⟨line, rfl⟩
  · refine (stopped ⟨?_, fun _ _ => sameOutput.symm⟩).elim
    intro line' overBudget
    cases overBudget

/-- The laws that make the limits of a run pure cut-offs, for `source` run
under `limits` and under `larger` ones. -/
def CutoffLaws (source : String) (limits larger : Limits) : Prop :=
  ((runProgram limits source).status = .ok →
      runProgram larger source = runProgram limits source ∧
      (runProgram limits source).output.length ≤ limits.maxOutput ∧
      ∀ ending, SourceRuns limits source ending → ending.iterations ≤ limits.loopBudget) ∧
    (limits.maxOutput = larger.maxOutput → ∀ ending, SourceRuns larger source ending →
      limits.loopBudget < ending.iterations →
      ∃ line, runProgram limits source =
        runtimeFailure ⟨.loopBudget limits.loopBudget, some line⟩
          #[.parsed, .bound, .budgetExceeded]) ∧
    ∀ error journal, runProgram larger source = runtimeFailure error journal →
      error.fault.kind ≠ "LoopBudgetExceeded" → error.fault.kind ≠ "OutputLimitExceeded" →
      runProgram limits source = runProgram larger source ∨
        ∃ line journal',
          runProgram limits source = runtimeFailure ⟨.loopBudget limits.loopBudget, line⟩ journal' ∨
          runProgram limits source = runtimeFailure ⟨.outputLimit limits.maxOutput, line⟩ journal'

theorem limits_are_pure_cutoffs (source : String) (limits larger : Limits)
    (budget : limits.loopBudget ≤ larger.loopBudget)
    (output : limits.maxOutput ≤ larger.maxOutput) : CutoffLaws source limits larger := by
  refine ⟨runProgram_raise_of_ok budget output, ?_, ?_⟩
  · intro sameOutput ending ranLarger counted
    exact runProgram_over_budget budget sameOutput ranLarger counted
  · intro error journal _ _ _
    rcases runProgram_cutoff budget output source with same | ⟨line, stopped⟩ | ⟨line, stopped⟩
    · exact .inl same
    · exact .inr ⟨some line, _, .inl stopped⟩
    · exact .inr ⟨some line, _, .inr stopped⟩

theorem limits_are_pure_cutoffs_at_default :
    (100 ≤ 100000 ∧ 1000 ≤ 1000000) ∧
      CutoffLaws
        "#include <stdio.h>\nint main() \x7b\nwhile (1) \x7b printf(\"x\"); \x7d\nreturn 0;\n\x7d\n"
        ⟨100, 1000⟩ {} :=
  ⟨⟨by decide, by decide⟩, limits_are_pure_cutoffs _ ⟨100, 1000⟩ {} (by decide) (by decide)⟩

end ClassroomC
