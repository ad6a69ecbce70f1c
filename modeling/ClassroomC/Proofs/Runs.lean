import ClassroomC.Exec

/-!
# Runs of statements as a relation

`Runs limits code machine iterations ending` says that running `code` from
`machine`, with `iterations` loop iterations counted so far, ends with
`ending`. There is one rule for each way the executor can go, so a property
of every run is proved by one induction over the rules, with a case for
each of them.

A run that stops with a failure keeps its loop count here, as the executor's
counter does: the budget check raises the counter before it compares it, so
the iteration that goes past the budget is counted. The executor itself
returns only the failure; `Runs` says what its counter held.

The main results are that the executor's answer is the ending of a run
(`execute_runs`) and that a run has one ending (`Runs.deterministic`).
-/

namespace ClassroomC

/-- How control leaves a loop's body when it goes back to the loop's head:
at the body's end, or by `continue`. -/
def Flow.latches : Flow → Bool
  | .next | .continueLoop => true
  | _ => false

/-- How a run ends: control leaves the code with the machine, the loop count
and the way it left, or the run stops with a failure at a loop count. -/
inductive Ending where
  | done (machine : Machine) (iterations : Nat) (flow : Flow)
  | failed (failure : Failure) (iterations : Nat)

namespace Ending

/-- The loop iterations counted when the run ended. -/
def iterations : Ending → Nat
  | done _ iterations _ | failed _ iterations => iterations

/-- The executor's answer for a run that ends so: it keeps no loop count for
a failure. -/
def result : Ending → Except Failure (Machine × Nat × Flow)
  | done machine iterations flow => .ok (machine, iterations, flow)
  | failed failure _ => .error failure

/-- Whether control goes on to the statement after the code. -/
def proceeds : Ending → Bool
  | done _ _ .next => true
  | _ => false

/-- How a loop ends when its body ends so, if the body leaves the loop:
`break` leaves it normally, a `return` and a failure leave it as they are. -/
def exit? : Ending → Option Ending
  | done machine iterations .breakLoop => some (done machine iterations .next)
  | done machine iterations (.returned value) => some (done machine iterations (.returned value))
  | failed failure iterations => some (failed failure iterations)
  | done _ _ .next | done _ _ .continueLoop => none

end Ending

/-- The pieces of code the executor runs: a statement, the initializer or
step of a `for`, a body, the arms of an `if` chain, and each kind of loop
from its head on. -/
inductive Code where
  | stmt (stmt : Stmt)
  | part (part : Option Stmt)
  | body (body : List Stmt)
  | branches (line : Nat) (branches : List Branch) (elseBody : List Stmt)
  | forLoop (condition : Option Expr) (step : Option Stmt) (body : List Stmt) (line : Nat)
  | whileLoop (condition : Expr) (body : List Stmt) (line : Nat)
  | doWhile (body : List Stmt) (condition : Expr) (line : Nat)

/-- The runs of code under `limits`, one rule for each way the executor
goes. -/
inductive Runs (limits : Limits) : Code → Machine → Nat → Ending → Prop where
  | declare {machine machine' : Machine} {iterations : Nat} {name : String}
      {value : Option Expr} {line : Nat}
      (declared : machine.declare name value line = .ok machine') :
      Runs limits (.stmt (.decl name value line)) machine iterations
        (.done machine' iterations .next)
  | declareFails {machine : Machine} {iterations : Nat} {name : String}
      {value : Option Expr} {line : Nat} {failure : Failure}
      (refused : machine.declare name value line = .error failure) :
      Runs limits (.stmt (.decl name value line)) machine iterations
        (.failed failure iterations)
  | declareArray {machine : Machine} {iterations : Nat} {name : String}
      {size : Option Nat} {values : List Int} {line : Nat} :
      Runs limits (.stmt (.arrayDecl name size values line)) machine iterations
        (.done (machine.declareArray name values (arrayLength size values)) iterations .next)
  | assign {machine machine' : Machine} {iterations : Nat} {target : Target}
      {op : AssignOp} {value : Expr} {line : Nat}
      (assigned : machine.assign target op value line = .ok machine') :
      Runs limits (.stmt (.assign target op value line)) machine iterations
        (.done machine' iterations .next)
  | assignFails {machine : Machine} {iterations : Nat} {target : Target}
      {op : AssignOp} {value : Expr} {line : Nat} {failure : Failure}
      (refused : machine.assign target op value line = .error failure) :
      Runs limits (.stmt (.assign target op value line)) machine iterations
        (.failed failure iterations)
  | print {machine machine' : Machine} {iterations : Nat} {format : String}
      {args : List Expr} {line : Nat}
      (printed : machine.print limits.maxOutput format args line = .ok machine') :
      Runs limits (.stmt (.print format args line)) machine iterations
        (.done machine' iterations .next)
  | printFails {machine : Machine} {iterations : Nat} {format : String}
      {args : List Expr} {line : Nat} {failure : Failure}
      (refused : machine.print limits.maxOutput format args line = .error failure) :
      Runs limits (.stmt (.print format args line)) machine iterations
        (.failed failure iterations)
  | breakLoop {machine : Machine} {iterations line : Nat} :
      Runs limits (.stmt (.breakLoop line)) machine iterations
        (.done machine iterations .breakLoop)
  | continueLoop {machine : Machine} {iterations line : Nat} :
      Runs limits (.stmt (.continueLoop line)) machine iterations
        (.done machine iterations .continueLoop)
  | returnValue {machine : Machine} {iterations : Nat} {value : Expr} {line : Nat}
      {result : Int}
      (evaluated : eval machine.store (some line) value = .ok result) :
      Runs limits (.stmt (.ret (some value) line)) machine iterations
        (.done machine iterations (.returned (some result)))
  | returnFails {machine : Machine} {iterations : Nat} {value : Expr} {line : Nat}
      {error : RuntimeError}
      (refused : eval machine.store (some line) value = .error error) :
      Runs limits (.stmt (.ret (some value) line)) machine iterations
        (.failed (.runtime error) iterations)
  | returnNothing {machine : Machine} {iterations line : Nat} :
      Runs limits (.stmt (.ret none line)) machine iterations
        (.done machine iterations (.returned none))
  | cond {machine : Machine} {iterations : Nat} {branches : List Branch}
      {elseBody : List Stmt} {line : Nat} {ending : Ending}
      (arms : Runs limits (.branches line branches elseBody) machine iterations ending) :
      Runs limits (.stmt (.cond branches elseBody line)) machine iterations ending
  | forLoop {machine machine' : Machine} {iterations after : Nat} {init : Option Stmt}
      {condition : Option Expr} {step : Option Stmt} {body : List Stmt} {line : Nat}
      {ending : Ending}
      (initialized : Runs limits (.part init) machine iterations (.done machine' after .next))
      (loop : Runs limits (.forLoop condition step body line) machine' after ending) :
      Runs limits (.stmt (.forLoop init condition step body line)) machine iterations ending
  | forInitStops {machine : Machine} {iterations : Nat} {init : Option Stmt}
      {condition : Option Expr} {step : Option Stmt} {body : List Stmt} {line : Nat}
      {ending : Ending}
      (initialized : Runs limits (.part init) machine iterations ending)
      (stops : ending.proceeds = false) :
      Runs limits (.stmt (.forLoop init condition step body line)) machine iterations ending
  | whileLoop {machine : Machine} {iterations : Nat} {condition : Expr} {body : List Stmt}
      {line : Nat} {ending : Ending}
      (loop : Runs limits (.whileLoop condition body line) machine iterations ending) :
      Runs limits (.stmt (.whileLoop condition body line)) machine iterations ending
  | doWhile {machine : Machine} {iterations : Nat} {body : List Stmt} {condition : Expr}
      {line : Nat} {ending : Ending}
      (loop : Runs limits (.doWhile body condition line) machine iterations ending) :
      Runs limits (.stmt (.doWhile body condition line)) machine iterations ending
  | partSome {machine : Machine} {iterations : Nat} {stmt : Stmt} {ending : Ending}
      (ran : Runs limits (.stmt stmt) machine iterations ending) :
      Runs limits (.part (some stmt)) machine iterations ending
  | partNone {machine : Machine} {iterations : Nat} :
      Runs limits (.part none) machine iterations (.done machine iterations .next)
  | bodyNil {machine : Machine} {iterations : Nat} :
      Runs limits (.body []) machine iterations (.done machine iterations .next)
  | bodyCons {machine machine' : Machine} {iterations after : Nat} {stmt : Stmt}
      {more : List Stmt} {ending : Ending}
      (first : Runs limits (.stmt stmt) machine iterations (.done machine' after .next))
      (rest : Runs limits (.body more) machine' after ending) :
      Runs limits (.body (stmt :: more)) machine iterations ending
  | bodyStops {machine : Machine} {iterations : Nat} {stmt : Stmt} {more : List Stmt}
      {ending : Ending}
      (first : Runs limits (.stmt stmt) machine iterations ending)
      (stops : ending.proceeds = false) :
      Runs limits (.body (stmt :: more)) machine iterations ending
  | branchesElse {machine : Machine} {iterations line : Nat} {elseBody : List Stmt}
      {ending : Ending}
      (ran : Runs limits (.body elseBody) machine iterations ending) :
      Runs limits (.branches line [] elseBody) machine iterations ending
  | branchTaken {machine : Machine} {iterations line : Nat} {condition : Expr}
      {body : List Stmt} {more : List Branch} {elseBody : List Stmt} {ending : Ending}
      (chosen : holds machine.store (some line) condition = .ok true)
      (ran : Runs limits (.body body) machine iterations ending) :
      Runs limits (.branches line (.mk condition body :: more) elseBody) machine iterations ending
  | branchSkipped {machine : Machine} {iterations line : Nat} {condition : Expr}
      {body : List Stmt} {more : List Branch} {elseBody : List Stmt} {ending : Ending}
      (skipped : holds machine.store (some line) condition = .ok false)
      (rest : Runs limits (.branches line more elseBody) machine iterations ending) :
      Runs limits (.branches line (.mk condition body :: more) elseBody) machine iterations ending
  | branchFails {machine : Machine} {iterations line : Nat} {condition : Expr}
      {body : List Stmt} {more : List Branch} {elseBody : List Stmt} {error : RuntimeError}
      (refused : holds machine.store (some line) condition = .error error) :
      Runs limits (.branches line (.mk condition body :: more) elseBody) machine iterations
        (.failed (.runtime error) iterations)
  | forFails {machine : Machine} {iterations : Nat} {condition : Option Expr}
      {step : Option Stmt} {body : List Stmt} {line : Nat} {failure : Failure}
      (refused : Exec.loopHolds machine line condition = .error failure) :
      Runs limits (.forLoop condition step body line) machine iterations
        (.failed failure iterations)
  | forEnds {machine : Machine} {iterations : Nat} {condition : Option Expr}
      {step : Option Stmt} {body : List Stmt} {line : Nat}
      (ended : Exec.loopHolds machine line condition = .ok false) :
      Runs limits (.forLoop condition step body line) machine iterations
        (.done machine iterations .next)
  | forOverBudget {machine : Machine} {iterations : Nat} {condition : Option Expr}
      {step : Option Stmt} {body : List Stmt} {line : Nat}
      (held : Exec.loopHolds machine line condition = .ok true)
      (spent : limits.loopBudget ≤ iterations) :
      Runs limits (.forLoop condition step body line) machine iterations
        (.failed (Exec.budgetExceeded limits line) (iterations + 1))
  | forExits {machine : Machine} {iterations : Nat} {condition : Option Expr}
      {step : Option Stmt} {body : List Stmt} {line : Nat} {ending ending' : Ending}
      (held : Exec.loopHolds machine line condition = .ok true)
      (within : iterations < limits.loopBudget)
      (ran : Runs limits (.body body) machine (iterations + 1) ending)
      (exits : ending.exit? = some ending') :
      Runs limits (.forLoop condition step body line) machine iterations ending'
  | forStepStops {machine machine' : Machine} {iterations after : Nat}
      {condition : Option Expr} {step : Option Stmt} {body : List Stmt} {line : Nat}
      {flow : Flow} {ending : Ending}
      (held : Exec.loopHolds machine line condition = .ok true)
      (within : iterations < limits.loopBudget)
      (ran : Runs limits (.body body) machine (iterations + 1) (.done machine' after flow))
      (latched : flow.latches = true)
      (stepped : Runs limits (.part step) machine' after ending)
      (stops : ending.proceeds = false) :
      Runs limits (.forLoop condition step body line) machine iterations ending
  | forRepeats {machine machine' machine'' : Machine} {iterations after stepped : Nat}
      {condition : Option Expr} {step : Option Stmt} {body : List Stmt} {line : Nat}
      {flow : Flow} {ending : Ending}
      (held : Exec.loopHolds machine line condition = .ok true)
      (within : iterations < limits.loopBudget)
      (ran : Runs limits (.body body) machine (iterations + 1) (.done machine' after flow))
      (latched : flow.latches = true)
      (steppedOn : Runs limits (.part step) machine' after (.done machine'' stepped .next))
      (loop : Runs limits (.forLoop condition step body line) machine'' stepped ending) :
      Runs limits (.forLoop condition step body line) machine iterations ending
  | whileFails {machine : Machine} {iterations : Nat} {condition : Expr} {body : List Stmt}
      {line : Nat} {error : RuntimeError}
      (refused : holds machine.store (some line) condition = .error error) :
      Runs limits (.whileLoop condition body line) machine iterations
        (.failed (.runtime error) iterations)
  | whileEnds {machine : Machine} {iterations : Nat} {condition : Expr} {body : List Stmt}
      {line : Nat}
      (ended : holds machine.store (some line) condition = .ok false) :
      Runs limits (.whileLoop condition body line) machine iterations
        (.done machine iterations .next)
  | whileOverBudget {machine : Machine} {iterations : Nat} {condition : Expr}
      {body : List Stmt} {line : Nat}
      (held : holds machine.store (some line) condition = .ok true)
      (spent : limits.loopBudget ≤ iterations) :
      Runs limits (.whileLoop condition body line) machine iterations
        (.failed (Exec.budgetExceeded limits line) (iterations + 1))
  | whileExits {machine : Machine} {iterations : Nat} {condition : Expr} {body : List Stmt}
      {line : Nat} {ending ending' : Ending}
      (held : holds machine.store (some line) condition = .ok true)
      (within : iterations < limits.loopBudget)
      (ran : Runs limits (.body body) machine (iterations + 1) ending)
      (exits : ending.exit? = some ending') :
      Runs limits (.whileLoop condition body line) machine iterations ending'
  | whileRepeats {machine machine' : Machine} {iterations after : Nat} {condition : Expr}
      {body : List Stmt} {line : Nat} {flow : Flow} {ending : Ending}
      (held : holds machine.store (some line) condition = .ok true)
      (within : iterations < limits.loopBudget)
      (ran : Runs limits (.body body) machine (iterations + 1) (.done machine' after flow))
      (latched : flow.latches = true)
      (loop : Runs limits (.whileLoop condition body line) machine' after ending) :
      Runs limits (.whileLoop condition body line) machine iterations ending
  | doOverBudget {machine : Machine} {iterations : Nat} {body : List Stmt}
      {condition : Expr} {line : Nat}
      (spent : limits.loopBudget ≤ iterations) :
      Runs limits (.doWhile body condition line) machine iterations
        (.failed (Exec.budgetExceeded limits line) (iterations + 1))
  | doExits {machine : Machine} {iterations : Nat} {body : List Stmt} {condition : Expr}
      {line : Nat} {ending ending' : Ending}
      (within : iterations < limits.loopBudget)
      (ran : Runs limits (.body body) machine (iterations + 1) ending)
      (exits : ending.exit? = some ending') :
      Runs limits (.doWhile body condition line) machine iterations ending'
  | doFails {machine machine' : Machine} {iterations after : Nat} {body : List Stmt}
      {condition : Expr} {line : Nat} {flow : Flow} {error : RuntimeError}
      (within : iterations < limits.loopBudget)
      (ran : Runs limits (.body body) machine (iterations + 1) (.done machine' after flow))
      (latched : flow.latches = true)
      (refused : holds machine'.store (some line) condition = .error error) :
      Runs limits (.doWhile body condition line) machine iterations
        (.failed (.runtime error) after)
  | doEnds {machine machine' : Machine} {iterations after : Nat} {body : List Stmt}
      {condition : Expr} {line : Nat} {flow : Flow}
      (within : iterations < limits.loopBudget)
      (ran : Runs limits (.body body) machine (iterations + 1) (.done machine' after flow))
      (latched : flow.latches = true)
      (ended : holds machine'.store (some line) condition = .ok false) :
      Runs limits (.doWhile body condition line) machine iterations
        (.done machine' after .next)
  | doRepeats {machine machine' : Machine} {iterations after : Nat} {body : List Stmt}
      {condition : Expr} {line : Nat} {flow : Flow} {ending : Ending}
      (within : iterations < limits.loopBudget)
      (ran : Runs limits (.body body) machine (iterations + 1) (.done machine' after flow))
      (latched : flow.latches = true)
      (held : holds machine'.store (some line) condition = .ok true)
      (loop : Runs limits (.doWhile body condition line) machine' after ending) :
      Runs limits (.doWhile body condition line) machine iterations ending

/-- What the executor's answer for a step shows: the machine, the loop count
and how control left. -/
def Step.view {floor : Nat} (step : Step floor) : Machine × Nat × Flow :=
  (step.machine, step.iterations, step.flow)

/-- The executor's answer for `code` is what a run of it ends with. -/
def Answers (limits : Limits) (code : Code) (machine : Machine) (iterations : Nat)
    {floor : Nat} (answer : Except Failure (Step floor)) : Prop :=
  ∃ ending, Runs limits code machine iterations ending ∧ answer.map Step.view = ending.result

namespace Ending

theorem eq_failed_of_result {ending : Ending} {failure : Failure}
    (answer : Except.error failure = ending.result) :
    ∃ count, ending = .failed failure count := by
  cases ending with
  | done machine iterations flow => cases answer
  | failed failure' count =>
      cases answer
      exact ⟨count, rfl⟩

theorem eq_done_of_result {ending : Ending} {machine : Machine} {iterations : Nat}
    {flow : Flow} (answer : Except.ok (machine, iterations, flow) = ending.result) :
    ending = .done machine iterations flow := by
  cases ending with
  | done machine' iterations' flow' =>
      cases answer
      rfl
  | failed failure count => cases answer

theorem proceeds_done_of_ne {machine : Machine} {iterations : Nat} {flow : Flow}
    (moved : flow = .next → False) : (done machine iterations flow).proceeds = false := by
  cases flow with
  | next => exact (moved rfl).elim
  | breakLoop | continueLoop | returned _ => rfl

end Ending

theorem Ending.exit?_of_latches {machine : Machine} {iterations : Nat} {flow : Flow}
    (latched : flow.latches = true) : (Ending.done machine iterations flow).exit? = none := by
  cases flow with
  | next | continueLoop => rfl
  | breakLoop | returned _ => cases latched

/-- A property of the machine a run leaves, when it finishes. -/
def Ending.Leaves (property : Machine → Prop) : Ending → Prop
  | .done machine _ _ => property machine
  | .failed .. => True

theorem Ending.leaves_of_exit {property : Machine → Prop} {ending ending' : Ending}
    (exits : ending.exit? = some ending') (leaves : ending.Leaves property) :
    ending'.Leaves property := by
  cases ending with
  | done machine iterations flow =>
      cases flow with
      | next | continueLoop => cases exits
      | breakLoop | returned _ =>
          cases exits
          exact leaves
  | failed failure count =>
      cases exits
      trivial

theorem Ending.Leaves.mono {property property' : Machine → Prop} {ending : Ending}
    (leaves : ending.Leaves property) (implies : ∀ machine, property machine → property' machine) :
    ending.Leaves property' := by
  cases ending with
  | done machine iterations flow => exact implies machine leaves
  | failed failure count => trivial

theorem Ending.leaves_of_forall {property : Machine → Prop} (always : ∀ machine, property machine)
    (ending : Ending) : ending.Leaves property := by
  cases ending with
  | done machine iterations flow => exact always machine
  | failed failure count => trivial

theorem Flow.latches_of_stays {flow : Flow} (notBreak : flow = .breakLoop → False)
    (notReturn : ∀ value, flow = .returned value → False) : flow.latches = true := by
  cases flow with
  | next | continueLoop => rfl
  | breakLoop => exact (notBreak rfl).elim
  | returned value => exact (notReturn value rfl).elim

/-- The executor's answers are the endings of runs: for every piece of code,
what the executor returns is what some run of it ends with. -/
theorem exec_answers (limits : Limits) :
    (∀ floor machine iterations (above : floor ≤ iterations) stmt,
      Answers limits (.stmt stmt) machine iterations
        (Exec.execStmt limits floor machine iterations above stmt)) ∧
    (∀ floor machine iterations (above : floor ≤ iterations) body condition line,
      Answers limits (.doWhile body condition line) machine iterations
        (Exec.runDoWhile limits floor machine iterations above body condition line)) ∧
    (∀ floor machine iterations (above : floor ≤ iterations) body,
      Answers limits (.body body) machine iterations
        (Exec.execBody limits floor machine iterations above body)) ∧
    (∀ floor machine iterations (above : floor ≤ iterations) condition body line,
      Answers limits (.whileLoop condition body line) machine iterations
        (Exec.runWhile limits floor machine iterations above condition body line)) ∧
    (∀ floor machine iterations (above : floor ≤ iterations) condition step body line,
      Answers limits (.forLoop condition step body line) machine iterations
        (Exec.runFor limits floor machine iterations above condition step body line)) ∧
    (∀ floor machine iterations (above : floor ≤ iterations) part,
      Answers limits (.part part) machine iterations
        (Exec.execPart limits floor machine iterations above part)) ∧
    (∀ floor machine iterations (above : floor ≤ iterations) line branches elseBody,
      Answers limits (.branches line branches elseBody) machine iterations
        (Exec.execBranches limits floor machine iterations above line branches elseBody)) := by
  apply Exec.execStmt.mutual_induct limits
    (fun floor machine iterations above stmt => Answers limits (.stmt stmt) machine iterations
      (Exec.execStmt limits floor machine iterations above stmt))
    (fun floor machine iterations above body condition line =>
      Answers limits (.doWhile body condition line) machine iterations
        (Exec.runDoWhile limits floor machine iterations above body condition line))
    (fun floor machine iterations above body => Answers limits (.body body) machine iterations
      (Exec.execBody limits floor machine iterations above body))
    (fun floor machine iterations above condition body line =>
      Answers limits (.whileLoop condition body line) machine iterations
        (Exec.runWhile limits floor machine iterations above condition body line))
    (fun floor machine iterations above condition step body line =>
      Answers limits (.forLoop condition step body line) machine iterations
        (Exec.runFor limits floor machine iterations above condition step body line))
    (fun floor machine iterations above part => Answers limits (.part part) machine iterations
      (Exec.execPart limits floor machine iterations above part))
    (fun floor machine iterations above line branches elseBody =>
      Answers limits (.branches line branches elseBody) machine iterations
        (Exec.execBranches limits floor machine iterations above line branches elseBody))

  -- a declaration
  · intro floor machine iterations above name value line
    cases declared : machine.declare name value line with
    | error failure =>
        refine ⟨_, .declareFails declared, ?_⟩
        rw [Exec.execStmt, declared]
        rfl
    | ok machine' =>
        refine ⟨_, .declare declared, ?_⟩
        rw [Exec.execStmt, declared]
        rfl
  -- an array declaration
  · intro floor machine iterations above name size values line
    exact ⟨_, .declareArray, by rw [Exec.execStmt]; rfl⟩
  -- an assignment
  · intro floor machine iterations above target op value line
    cases assigned : machine.assign target op value line with
    | error failure =>
        refine ⟨_, .assignFails assigned, ?_⟩
        rw [Exec.execStmt, assigned]
        rfl
    | ok machine' =>
        refine ⟨_, .assign assigned, ?_⟩
        rw [Exec.execStmt, assigned]
        rfl
  -- an `if` chain
  · intro floor machine iterations above branches elseBody line arms
    obtain ⟨ending, ran, answer⟩ := arms
    exact ⟨ending, .cond ran, by rw [Exec.execStmt]; exact answer⟩
  -- a `for` whose initializer fails
  · intro floor machine iterations above init condition step body line failure initFailed
      initAnswer
    obtain ⟨ending, initialized, answer⟩ := initAnswer
    rw [initFailed] at answer
    obtain ⟨count, rfl⟩ := Ending.eq_failed_of_result answer
    refine ⟨_, .forInitStops initialized rfl, ?_⟩
    rw [Exec.execStmt, initFailed]
    rfl
  -- a `for` whose initializer runs normally
  · intro floor machine iterations above init condition step body line machine' after grew
      initRan initAnswer loopAnswer
    obtain ⟨ending, initialized, answer⟩ := initAnswer
    rw [initRan] at answer
    obtain rfl := Ending.eq_done_of_result answer
    obtain ⟨ending', loop, loopResult⟩ := loopAnswer
    refine ⟨ending', .forLoop initialized loop, ?_⟩
    rw [Exec.execStmt, initRan]
    exact loopResult
  -- a `for` whose initializer leaves it
  · intro floor machine iterations above init condition step body line machine' after flow grew
      moved initRan initAnswer
    obtain ⟨ending, initialized, answer⟩ := initAnswer
    rw [initRan] at answer
    obtain rfl := Ending.eq_done_of_result answer
    refine ⟨_, .forInitStops initialized (Ending.proceeds_done_of_ne moved), ?_⟩
    rw [Exec.execStmt, initRan]
    cases flow with
    | next => exact (moved rfl).elim
    | breakLoop | continueLoop | returned _ => rfl
  -- a `while`
  · intro floor machine iterations above condition body line loopAnswer
    obtain ⟨ending, loop, answer⟩ := loopAnswer
    exact ⟨ending, .whileLoop loop, by rw [Exec.execStmt]; exact answer⟩
  -- a `do`-`while`
  · intro floor machine iterations above body condition line loopAnswer
    obtain ⟨ending, loop, answer⟩ := loopAnswer
    exact ⟨ending, .doWhile loop, by rw [Exec.execStmt]; exact answer⟩
  -- a `printf`
  · intro floor machine iterations above format args line
    cases printed : machine.print limits.maxOutput format args line with
    | error failure =>
        refine ⟨_, .printFails printed, ?_⟩
        rw [Exec.execStmt, printed]
        rfl
    | ok machine' =>
        refine ⟨_, .print printed, ?_⟩
        rw [Exec.execStmt, printed]
        rfl
  -- `break` and `continue`
  · intro floor machine iterations above line
    exact ⟨_, .breakLoop, by rw [Exec.execStmt]; rfl⟩
  · intro floor machine iterations above line
    exact ⟨_, .continueLoop, by rw [Exec.execStmt]; rfl⟩
  -- `return` with a value, and without
  · intro floor machine iterations above line value
    cases evaluated : eval machine.store (some line) value with
    | error error =>
        refine ⟨_, .returnFails evaluated, ?_⟩
        rw [Exec.execStmt, evaluated]
        rfl
    | ok result =>
        refine ⟨_, .returnValue evaluated, ?_⟩
        rw [Exec.execStmt, evaluated]
        rfl
  · intro floor machine iterations above line
    exact ⟨_, .returnNothing, by rw [Exec.execStmt]; rfl⟩
  -- a `do`-`while` within the budget: its body fails, breaks, returns or
  -- goes on to the condition
  · intro floor machine iterations above body condition line within failure bodyFailed bodyAnswer
    obtain ⟨ending, ran, answer⟩ := bodyAnswer
    rw [bodyFailed] at answer
    obtain ⟨count, rfl⟩ := Ending.eq_failed_of_result answer
    refine ⟨_, .doExits within ran rfl, ?_⟩
    rw [Exec.runDoWhile, dif_pos within, bodyFailed]
    rfl
  · intro floor machine iterations above body condition line within machine' after grew bodyRan
      bodyAnswer
    obtain ⟨ending, ran, answer⟩ := bodyAnswer
    rw [bodyRan] at answer
    obtain rfl := Ending.eq_done_of_result answer
    refine ⟨_, .doExits within ran rfl, ?_⟩
    rw [Exec.runDoWhile, dif_pos within, bodyRan]
    rfl
  · intro floor machine iterations above body condition line within machine' after value grew
      bodyRan bodyAnswer
    obtain ⟨ending, ran, answer⟩ := bodyAnswer
    rw [bodyRan] at answer
    obtain rfl := Ending.eq_done_of_result answer
    refine ⟨_, .doExits within ran rfl, ?_⟩
    rw [Exec.runDoWhile, dif_pos within, bodyRan]
    rfl
  · intro floor machine iterations above body condition line within machine' after flow grew
      notBreak notReturn bodyRan error refused bodyAnswer
    obtain ⟨ending, ran, answer⟩ := bodyAnswer
    rw [bodyRan] at answer
    obtain rfl := Ending.eq_done_of_result answer
    have latched := Flow.latches_of_stays notBreak notReturn
    refine ⟨_, .doFails within ran latched refused, ?_⟩
    rw [Exec.runDoWhile, dif_pos within, bodyRan]
    cases flow with
    | next | continueLoop => simp only [refused]; rfl
    | breakLoop => exact (notBreak rfl).elim
    | returned value => exact (notReturn value rfl).elim
  · intro floor machine iterations above body condition line within machine' after flow grew
      notBreak notReturn bodyRan ended bodyAnswer
    obtain ⟨ending, ran, answer⟩ := bodyAnswer
    rw [bodyRan] at answer
    obtain rfl := Ending.eq_done_of_result answer
    have latched := Flow.latches_of_stays notBreak notReturn
    refine ⟨_, .doEnds within ran latched ended, ?_⟩
    rw [Exec.runDoWhile, dif_pos within, bodyRan]
    cases flow with
    | next | continueLoop => simp only [ended]; rfl
    | breakLoop => exact (notBreak rfl).elim
    | returned value => exact (notReturn value rfl).elim
  · intro floor machine iterations above body condition line within machine' after flow grew
      notBreak notReturn bodyRan held bodyAnswer loopAnswer
    obtain ⟨ending, ran, answer⟩ := bodyAnswer
    rw [bodyRan] at answer
    obtain rfl := Ending.eq_done_of_result answer
    have latched := Flow.latches_of_stays notBreak notReturn
    obtain ⟨ending', loop, loopResult⟩ := loopAnswer
    refine ⟨ending', .doRepeats within ran latched held loop, ?_⟩
    rw [Exec.runDoWhile, dif_pos within, bodyRan]
    cases flow with
    | next | continueLoop => simp only [held]; exact loopResult
    | breakLoop => exact (notBreak rfl).elim
    | returned value => exact (notReturn value rfl).elim
  -- a `do`-`while` past the budget
  · intro floor machine iterations above body condition line spent
    refine ⟨_, .doOverBudget (Nat.le_of_not_lt spent), ?_⟩
    rw [Exec.runDoWhile, dif_neg spent]
    rfl
  -- bodies: empty, a first statement that fails, goes on, or leaves
  · intro floor machine iterations above
    exact ⟨_, .bodyNil, by rw [Exec.execBody]; rfl⟩
  · intro floor machine iterations above stmt more failure firstFailed firstAnswer
    obtain ⟨ending, first, answer⟩ := firstAnswer
    rw [firstFailed] at answer
    obtain ⟨count, rfl⟩ := Ending.eq_failed_of_result answer
    refine ⟨_, .bodyStops first rfl, ?_⟩
    rw [Exec.execBody, firstFailed]
    rfl
  · intro floor machine iterations above stmt more machine' after grew firstRan firstAnswer
      restAnswer
    obtain ⟨ending, first, answer⟩ := firstAnswer
    rw [firstRan] at answer
    obtain rfl := Ending.eq_done_of_result answer
    obtain ⟨ending', rest, restResult⟩ := restAnswer
    refine ⟨ending', .bodyCons first rest, ?_⟩
    rw [Exec.execBody, firstRan]
    exact restResult
  · intro floor machine iterations above stmt more machine' after flow grew moved firstRan
      firstAnswer
    obtain ⟨ending, first, answer⟩ := firstAnswer
    rw [firstRan] at answer
    obtain rfl := Ending.eq_done_of_result answer
    refine ⟨_, .bodyStops first (Ending.proceeds_done_of_ne moved), ?_⟩
    rw [Exec.execBody, firstRan]
    cases flow with
    | next => exact (moved rfl).elim
    | breakLoop | continueLoop | returned _ => rfl
  -- a `while`: the condition fails or is false
  · intro floor machine iterations above condition body line error refused
    refine ⟨_, .whileFails refused, ?_⟩
    rw [Exec.runWhile, refused]
    rfl
  · intro floor machine iterations above condition body line ended
    refine ⟨_, .whileEnds ended, ?_⟩
    rw [Exec.runWhile, ended]
    rfl
  -- the condition holds within the budget: the body fails, breaks, returns
  -- or goes back to the condition
  · intro floor machine iterations above condition body line held within failure bodyFailed
      bodyAnswer
    obtain ⟨ending, ran, answer⟩ := bodyAnswer
    rw [bodyFailed] at answer
    obtain ⟨count, rfl⟩ := Ending.eq_failed_of_result answer
    refine ⟨_, .whileExits held within ran rfl, ?_⟩
    rw [Exec.runWhile, held, dif_pos within, bodyFailed]
    rfl
  · intro floor machine iterations above condition body line held within machine' after grew
      bodyRan bodyAnswer
    obtain ⟨ending, ran, answer⟩ := bodyAnswer
    rw [bodyRan] at answer
    obtain rfl := Ending.eq_done_of_result answer
    refine ⟨_, .whileExits held within ran rfl, ?_⟩
    rw [Exec.runWhile, held, dif_pos within, bodyRan]
    rfl
  · intro floor machine iterations above condition body line held within machine' after value
      grew bodyRan bodyAnswer
    obtain ⟨ending, ran, answer⟩ := bodyAnswer
    rw [bodyRan] at answer
    obtain rfl := Ending.eq_done_of_result answer
    refine ⟨_, .whileExits held within ran rfl, ?_⟩
    rw [Exec.runWhile, held, dif_pos within, bodyRan]
    rfl
  · intro floor machine iterations above condition body line held within machine' after flow
      grew notBreak notReturn bodyRan bodyAnswer loopAnswer
    obtain ⟨ending, ran, answer⟩ := bodyAnswer
    rw [bodyRan] at answer
    obtain rfl := Ending.eq_done_of_result answer
    have latched := Flow.latches_of_stays notBreak notReturn
    obtain ⟨ending', loop, loopResult⟩ := loopAnswer
    refine ⟨ending', .whileRepeats held within ran latched loop, ?_⟩
    rw [Exec.runWhile, held, dif_pos within, bodyRan]
    cases flow with
    | next | continueLoop => exact loopResult
    | breakLoop => exact (notBreak rfl).elim
    | returned value => exact (notReturn value rfl).elim
  -- the condition holds past the budget
  · intro floor machine iterations above condition body line held spent
    refine ⟨_, .whileOverBudget held (Nat.le_of_not_lt spent), ?_⟩
    rw [Exec.runWhile, held, dif_neg spent]
    rfl
  -- a `for` from its head: the condition fails or is false
  · intro floor machine iterations above condition step body line failure refused
    refine ⟨_, .forFails refused, ?_⟩
    rw [Exec.runFor, refused]
    rfl
  · intro floor machine iterations above condition step body line ended
    refine ⟨_, .forEnds ended, ?_⟩
    rw [Exec.runFor, ended]
    rfl
  -- the condition holds within the budget: the body fails, breaks or
  -- returns, or the step runs
  · intro floor machine iterations above condition step body line held within failure
      bodyFailed bodyAnswer
    obtain ⟨ending, ran, answer⟩ := bodyAnswer
    rw [bodyFailed] at answer
    obtain ⟨count, rfl⟩ := Ending.eq_failed_of_result answer
    refine ⟨_, .forExits held within ran rfl, ?_⟩
    rw [Exec.runFor, held, dif_pos within, bodyFailed]
    rfl
  · intro floor machine iterations above condition step body line held within machine' after
      grew bodyRan bodyAnswer
    obtain ⟨ending, ran, answer⟩ := bodyAnswer
    rw [bodyRan] at answer
    obtain rfl := Ending.eq_done_of_result answer
    refine ⟨_, .forExits held within ran rfl, ?_⟩
    rw [Exec.runFor, held, dif_pos within, bodyRan]
    rfl
  · intro floor machine iterations above condition step body line held within machine' after
      value grew bodyRan bodyAnswer
    obtain ⟨ending, ran, answer⟩ := bodyAnswer
    rw [bodyRan] at answer
    obtain rfl := Ending.eq_done_of_result answer
    refine ⟨_, .forExits held within ran rfl, ?_⟩
    rw [Exec.runFor, held, dif_pos within, bodyRan]
    rfl
  · intro floor machine iterations above condition step body line held within machine' after
      flow grew notBreak notReturn bodyRan failure stepFailed bodyAnswer stepAnswer
    obtain ⟨ending, ran, answer⟩ := bodyAnswer
    rw [bodyRan] at answer
    obtain rfl := Ending.eq_done_of_result answer
    have latched := Flow.latches_of_stays notBreak notReturn
    obtain ⟨ending', stepped, stepResult⟩ := stepAnswer
    rw [stepFailed] at stepResult
    obtain ⟨count, rfl⟩ := Ending.eq_failed_of_result stepResult
    refine ⟨_, .forStepStops held within ran latched stepped rfl, ?_⟩
    rw [Exec.runFor, held, dif_pos within, bodyRan]
    cases flow with
    | next | continueLoop => simp only [stepFailed]; rfl
    | breakLoop => exact (notBreak rfl).elim
    | returned value => exact (notReturn value rfl).elim
  · intro floor machine iterations above condition step body line held within machine' after
      flow grew notBreak notReturn bodyRan machine'' stepped grewAgain stepRan bodyAnswer
      stepAnswer loopAnswer
    obtain ⟨ending, ran, answer⟩ := bodyAnswer
    rw [bodyRan] at answer
    obtain rfl := Ending.eq_done_of_result answer
    have latched := Flow.latches_of_stays notBreak notReturn
    obtain ⟨ending', steppedOn, stepResult⟩ := stepAnswer
    rw [stepRan] at stepResult
    obtain rfl := Ending.eq_done_of_result stepResult
    obtain ⟨ending'', loop, loopResult⟩ := loopAnswer
    refine ⟨ending'', .forRepeats held within ran latched steppedOn loop, ?_⟩
    rw [Exec.runFor, held, dif_pos within, bodyRan]
    cases flow with
    | next | continueLoop => simp only [stepRan]; exact loopResult
    | breakLoop => exact (notBreak rfl).elim
    | returned value => exact (notReturn value rfl).elim
  · intro floor machine iterations above condition step body line held within machine' after
      flow grew notBreak notReturn bodyRan machine'' stepped stepFlow grewAgain moved stepRan
      bodyAnswer stepAnswer
    obtain ⟨ending, ran, answer⟩ := bodyAnswer
    rw [bodyRan] at answer
    obtain rfl := Ending.eq_done_of_result answer
    have latched := Flow.latches_of_stays notBreak notReturn
    obtain ⟨ending', steppedOn, stepResult⟩ := stepAnswer
    rw [stepRan] at stepResult
    obtain rfl := Ending.eq_done_of_result stepResult
    refine ⟨_, .forStepStops held within ran latched steppedOn
      (Ending.proceeds_done_of_ne moved), ?_⟩
    rw [Exec.runFor, held, dif_pos within, bodyRan]
    cases flow with
    | next | continueLoop =>
        simp only [stepRan]
        cases stepFlow with
        | next => exact (moved rfl).elim
        | breakLoop | continueLoop | returned _ => rfl
    | breakLoop => exact (notBreak rfl).elim
    | returned value => exact (notReturn value rfl).elim
  -- the condition holds past the budget
  · intro floor machine iterations above condition step body line held spent
    refine ⟨_, .forOverBudget held (Nat.le_of_not_lt spent), ?_⟩
    rw [Exec.runFor, held, dif_neg spent]
    rfl
  -- the initializer or step of a `for`, present or not
  · intro floor machine iterations above stmt stmtAnswer
    obtain ⟨ending, ran, answer⟩ := stmtAnswer
    exact ⟨ending, .partSome ran, by rw [Exec.execPart]; exact answer⟩
  · intro floor machine iterations above
    exact ⟨_, .partNone, by rw [Exec.execPart]; rfl⟩
  -- the arms of an `if` chain
  · intro floor machine iterations above line elseBody elseAnswer
    obtain ⟨ending, ran, answer⟩ := elseAnswer
    exact ⟨ending, .branchesElse ran, by rw [Exec.execBranches]; exact answer⟩
  · intro floor machine iterations above line condition body more elseBody error refused
    refine ⟨_, .branchFails refused, ?_⟩
    rw [Exec.execBranches, refused]
    rfl
  · intro floor machine iterations above line condition body more elseBody chosen bodyAnswer
    obtain ⟨ending, ran, answer⟩ := bodyAnswer
    refine ⟨ending, .branchTaken chosen ran, ?_⟩
    rw [Exec.execBranches, chosen]
    exact answer
  · intro floor machine iterations above line condition body more elseBody skipped restAnswer
    obtain ⟨ending, rest, answer⟩ := restAnswer
    refine ⟨ending, .branchSkipped skipped rest, ?_⟩
    rw [Exec.execBranches, skipped]
    exact answer

/-- A run has one ending. -/
theorem Runs.deterministic {limits : Limits} {code : Code} {machine : Machine}
    {iterations : Nat} {ending ending' : Ending}
    (first : Runs limits code machine iterations ending)
    (second : Runs limits code machine iterations ending') : ending = ending' := by
  -- each rule against each rule for the same code: the same rule agrees by
  -- the induction hypotheses, two different rules disagree on a premise
  induction first generalizing ending' <;> cases second <;>
    grind [Ending.proceeds, Ending.exit?, Flow.latches, Ending.exit?_of_latches]

/-- How a program ends, from the machine, the loop count and how control
left its body: with the value a `return` gave, if one did, or with the
host's failure for a `break` or a `continue` that no loop caught. -/
def Flow.finish (machine : Machine) (iterations : Nat) : Flow → Except Failure Finished
  | .next => .ok ⟨machine, iterations, none⟩
  | .returned value => .ok ⟨machine, iterations, value⟩
  | .breakLoop => .error (.host .breakSignal)
  | .continueLoop => .error (.host .continueSignal)

/-- Every body has a run. -/
theorem Runs.body_exists (limits : Limits) (machine : Machine) (iterations : Nat)
    (body : List Stmt) : ∃ ending, Runs limits (.body body) machine iterations ending := by
  obtain ⟨ending, ran, _⟩ :=
    (exec_answers limits).2.2.1 iterations machine iterations (Nat.le_refl _) body
  exact ⟨ending, ran⟩

/-- The executor runs a program's body as its run does: a failure is the
failure the run stops with, and a run that ends finishes as its flow says. -/
theorem execute_eq_of_runs {limits : Limits} {store : Store} {body : List Stmt}
    {ending : Ending} (ran : Runs limits (.body body) (Machine.start store) 0 ending) :
    execute limits store body =
      ending.result.bind fun (machine, iterations, flow) => flow.finish machine iterations := by
  obtain ⟨ending', ran', answer⟩ :=
    (exec_answers limits).2.2.1 0 (Machine.start store) 0 (Nat.le_refl _) body
  obtain rfl := ran'.deterministic ran
  unfold execute
  cases executed : Exec.execBody limits 0 (Machine.start store) 0 (Nat.le_refl _) body with
  | error failure =>
      rw [executed] at answer
      obtain ⟨count, rfl⟩ := Ending.eq_failed_of_result answer
      rfl
  | ok step =>
      rw [executed] at answer
      obtain rfl := Ending.eq_done_of_result answer
      cases step with
      | mk machine iterations flow counted =>
          cases flow <;> rfl

end ClassroomC
