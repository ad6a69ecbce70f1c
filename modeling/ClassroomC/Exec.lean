import ClassroomC.Measure
import ClassroomC.Machine
/-!
# Running statements

Statements run in order against a machine. A loop iteration is counted
after the condition of a `for` or `while` holds, and before each body of a
`do`-`while`; all loops of a run share one budget, and the iteration that
goes past it stops the run. `break` and `continue` act on the innermost
loop, and `return` leaves the program with its value.

The iteration count never falls, and every loop iteration raises it by one
within the budget. So the budget left, then the size of what is still to
run, decreases from each call to the next: the executor is total. A step
of the run carries the proof that the count did not fall, which is what
that argument needs.
-/

namespace ClassroomC

/-- A run of statements that started at loop count `floor`: the machine
and loop count it ends with, how control left, and the proof that the count
did not fall. -/
structure Step (floor : Nat) where
  machine : Machine
  iterations : Nat
  flow : Flow
  counted : floor ≤ iterations

namespace Exec

/-- The fault of the iteration that goes past the budget of `limits`, in
the loop at `line`. -/
def budgetExceeded (limits : Limits) (line : Nat) : Failure :=
  .runtime ⟨.loopBudget limits.loopBudget, some line⟩

/-- Whether the condition of a loop at `line` holds; a missing one does. -/
def loopHolds (machine : Machine) (line : Nat) : Option Expr → Except Failure Bool
  | some condition => (holds machine.store (some line) condition).mapError Failure.runtime
  | none => .ok true

mutual

/-- Run one statement. -/
def execStmt (limits : Limits) (floor : Nat) (machine : Machine) (iterations : Nat)
    (above : floor ≤ iterations) : Stmt → Except Failure (Step floor)
  | .decl name value line => do
    let machine ← machine.declare name value line
    pure ⟨machine, iterations, .next, above⟩
  | .arrayDecl name size values _ =>
    .ok ⟨machine.declareArray name values (arrayLength size values), iterations, .next, above⟩
  | .assign target op value line => do
    let machine ← machine.assign target op value line
    pure ⟨machine, iterations, .next, above⟩
  | .cond branches elseBody line =>
    execBranches limits floor machine iterations above line branches elseBody
  | .forLoop init condition step body line =>
    match execPart limits iterations machine iterations (Nat.le_refl _) init with
    | .error failure => .error failure
    | .ok ⟨machine, after, .next, grew⟩ =>
      runFor limits floor machine after (Nat.le_trans above grew) condition step body line
    | .ok ⟨machine, after, flow, grew⟩ => .ok ⟨machine, after, flow, Nat.le_trans above grew⟩
  | .whileLoop condition body line =>
    runWhile limits floor machine iterations above condition body line
  | .doWhile body condition line =>
    runDoWhile limits floor machine iterations above body condition line
  | .print format args line => do
    let machine ← machine.print limits.maxOutput format args line
    pure ⟨machine, iterations, .next, above⟩
  | .breakLoop _ => .ok ⟨machine, iterations, .breakLoop, above⟩
  | .continueLoop _ => .ok ⟨machine, iterations, .continueLoop, above⟩
  | .ret value line => do
    let returned ← match value with
      | some value => do
        let value ← (eval machine.store (some line) value).mapError Failure.runtime
        pure (some value)
      | none => pure none
    pure ⟨machine, iterations, .returned returned, above⟩
termination_by stmt => (limits.loopBudget - iterations, 3 * sizeOf stmt + 2)
decreasing_by
  all_goals simp only [Stmt.cond.sizeOf_spec, Stmt.forLoop.sizeOf_spec,
    Stmt.whileLoop.sizeOf_spec, Stmt.doWhile.sizeOf_spec]
  all_goals
    apply Measure.lex_lt
    omega

/-- Run the initializer or the step of a `for`, if there is one. -/
def execPart (limits : Limits) (floor : Nat) (machine : Machine) (iterations : Nat)
    (above : floor ≤ iterations) : Option Stmt → Except Failure (Step floor)
  | some stmt => execStmt limits floor machine iterations above stmt
  | none => .ok ⟨machine, iterations, .next, above⟩
termination_by part => (limits.loopBudget - iterations, 3 * sizeOf part + 1)
decreasing_by
  all_goals simp only [Option.some.sizeOf_spec]
  all_goals
    apply Measure.lex_lt
    omega

/-- Run a body until its end or until control leaves it. -/
def execBody (limits : Limits) (floor : Nat) (machine : Machine) (iterations : Nat)
    (above : floor ≤ iterations) : List Stmt → Except Failure (Step floor)
  | [] => .ok ⟨machine, iterations, .next, above⟩
  | stmt :: more =>
    match execStmt limits iterations machine iterations (Nat.le_refl _) stmt with
    | .error failure => .error failure
    | .ok ⟨machine, after, .next, grew⟩ =>
      execBody limits floor machine after (Nat.le_trans above grew) more
    | .ok ⟨machine, after, flow, grew⟩ => .ok ⟨machine, after, flow, Nat.le_trans above grew⟩
termination_by body => (limits.loopBudget - iterations, 3 * sizeOf body)
decreasing_by
  all_goals simp only [List.cons.sizeOf_spec]
  all_goals
    apply Measure.lex_lt
    omega

/-- Run the body of the first arm of an `if` chain whose condition holds,
else `elseBody`. -/
def execBranches (limits : Limits) (floor : Nat) (machine : Machine) (iterations : Nat)
    (above : floor ≤ iterations) (line : Nat) :
    List Branch → List Stmt → Except Failure (Step floor)
  | [], elseBody => execBody limits floor machine iterations above elseBody
  | .mk condition body :: more, elseBody =>
    match holds machine.store (some line) condition with
    | .error error => .error (.runtime error)
    | .ok true => execBody limits floor machine iterations above body
    | .ok false => execBranches limits floor machine iterations above line more elseBody
termination_by branches elseBody =>
  (limits.loopBudget - iterations, 3 * (sizeOf branches + sizeOf elseBody) + 1)
decreasing_by
  all_goals simp only [List.cons.sizeOf_spec, Branch.mk.sizeOf_spec, List.nil.sizeOf_spec]
  all_goals
    apply Measure.lex_lt
    omega

/-- Run a `for` loop from its condition on. -/
def runFor (limits : Limits) (floor : Nat) (machine : Machine) (iterations : Nat)
    (above : floor ≤ iterations) (condition : Option Expr) (step : Option Stmt)
    (body : List Stmt) (line : Nat) : Except Failure (Step floor) :=
  match loopHolds machine line condition with
  | .error failure => .error failure
  | .ok false => .ok ⟨machine, iterations, .next, above⟩
  | .ok true =>
    if within : iterations < limits.loopBudget then
      match execBody limits (iterations + 1) machine (iterations + 1) (Nat.le_refl _) body with
      | .error failure => .error failure
      | .ok ⟨machine, after, .breakLoop, grew⟩ => .ok ⟨machine, after, .next, by omega⟩
      | .ok ⟨machine, after, .returned value, grew⟩ =>
        .ok ⟨machine, after, .returned value, by omega⟩
      | .ok ⟨machine, after, _, grew⟩ =>
        match execPart limits after machine after (Nat.le_refl _) step with
        | .error failure => .error failure
        | .ok ⟨machine, stepped, .next, grewAgain⟩ =>
          runFor limits floor machine stepped (by omega) condition step body line
        | .ok ⟨machine, stepped, flow, grewAgain⟩ => .ok ⟨machine, stepped, flow, by omega⟩
    else .error (budgetExceeded limits line)
termination_by (limits.loopBudget - iterations, 3 * (sizeOf step + sizeOf body + 1) + 1)
decreasing_by
  all_goals
    apply Measure.lex_lt
    omega

/-- Run a `while` loop. -/
def runWhile (limits : Limits) (floor : Nat) (machine : Machine) (iterations : Nat)
    (above : floor ≤ iterations) (condition : Expr) (body : List Stmt) (line : Nat) :
    Except Failure (Step floor) :=
  match holds machine.store (some line) condition with
  | .error error => .error (.runtime error)
  | .ok false => .ok ⟨machine, iterations, .next, above⟩
  | .ok true =>
    if within : iterations < limits.loopBudget then
      match execBody limits (iterations + 1) machine (iterations + 1) (Nat.le_refl _) body with
      | .error failure => .error failure
      | .ok ⟨machine, after, .breakLoop, grew⟩ => .ok ⟨machine, after, .next, by omega⟩
      | .ok ⟨machine, after, .returned value, grew⟩ =>
        .ok ⟨machine, after, .returned value, by omega⟩
      | .ok ⟨machine, after, _, grew⟩ =>
        runWhile limits floor machine after (by omega) condition body line
    else .error (budgetExceeded limits line)
termination_by (limits.loopBudget - iterations, 3 * (sizeOf body + 1) + 1)
decreasing_by
  all_goals
    apply Measure.lex_lt
    omega

/-- Run a `do`-`while` loop: the body, then the condition. -/
def runDoWhile (limits : Limits) (floor : Nat) (machine : Machine) (iterations : Nat)
    (above : floor ≤ iterations) (body : List Stmt) (condition : Expr) (line : Nat) :
    Except Failure (Step floor) :=
  if within : iterations < limits.loopBudget then
    match execBody limits (iterations + 1) machine (iterations + 1) (Nat.le_refl _) body with
    | .error failure => .error failure
    | .ok ⟨machine, after, .breakLoop, grew⟩ => .ok ⟨machine, after, .next, by omega⟩
    | .ok ⟨machine, after, .returned value, grew⟩ =>
      .ok ⟨machine, after, .returned value, by omega⟩
    | .ok ⟨machine, after, _, grew⟩ =>
      match holds machine.store (some line) condition with
      | .error error => .error (.runtime error)
      | .ok false => .ok ⟨machine, after, .next, by omega⟩
      | .ok true => runDoWhile limits floor machine after (by omega) body condition line
  else .error (budgetExceeded limits line)
termination_by (limits.loopBudget - iterations, 3 * (sizeOf body + 1) + 1)
decreasing_by
  all_goals
    apply Measure.lex_lt
    omega

end

end Exec

/-- What a finished run leaves: the machine, the loop iterations it
counted, and the value of the `return` that ended it, if one did. -/
structure Finished where
  machine : Machine
  iterations : Nat
  exitCode : Option Int

/-- Run the statements `body` from `store` under `limits`. A `break` or
`continue` that no loop of `body` catches is the host's failure. -/
def execute (limits : Limits) (store : Store) (body : List Stmt) : Except Failure Finished := do
  let step ← Exec.execBody limits 0 (Machine.start store) 0 (Nat.le_refl _) body
  match step.flow with
  | .next => pure ⟨step.machine, step.iterations, none⟩
  | .returned value => pure ⟨step.machine, step.iterations, value⟩
  | .breakLoop => throw (.host .breakSignal)
  | .continueLoop => throw (.host .continueSignal)

end ClassroomC
