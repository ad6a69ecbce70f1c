import ClassroomC.Proofs.Cutoff

/-!
# The executor terminates on every program

Each loop counts an iteration before it runs its body, and the count never
falls, so a run of code from a loop count `n` under a budget `b` makes its
calls in an order that lowers the pair (`b - n`, size of the code being
run): a call either runs part of the code it is in, at no lower a count, or
is the next iteration of a loop, at a higher count. Flattened, every call
is nested at most `b - n + rank` deep, where the rank of a piece of code
grows with its size (`Code.rank`).

`Exec.clocked` is the executor with a clock: it makes the same calls, each
taking one tick of its fuel, and gives up when the fuel runs out. Whatever
it answers is a run of the code (`Runs.of_clocked`), and it never gives up
when its fuel is above that bound (`clocked_isSome`). So the executor's
answer on every program, from every store and under every budget, is
reached within `b + rank + 1` nested calls (`execute_within_clock`).
-/

namespace ClassroomC

/-! ## The clocked executor -/

namespace Ending

/-- How a statement that changes the machine ends: it goes on with the new
machine, or fails. -/
def ofResult (result : Except Failure Machine) (iterations : Nat) : Ending :=
  match result with
  | .ok machine => .done machine iterations .next
  | .error failure => .failed failure iterations

/-- Go on with `next` if control goes on past `first`; otherwise end as
`first` did. -/
def andThen (first : Ending) (next : Machine → Nat → Option Ending) : Option Ending :=
  match first with
  | .done machine iterations .next => next machine iterations
  | ending => some ending

/-- After a loop's body: go back to the loop's head with `next` if the body
ends normally or by `continue`; otherwise leave the loop as the body does. -/
def loopOn (body : Ending) (next : Machine → Nat → Option Ending) : Option Ending :=
  match body with
  | .done machine iterations .next | .done machine iterations .continueLoop =>
    next machine iterations
  | .done machine iterations .breakLoop => some (.done machine iterations .next)
  | .done machine iterations (.returned value) => some (.done machine iterations (.returned value))
  | .failed failure iterations => some (.failed failure iterations)

end Ending

namespace Exec

/-- Run `code` as the executor does, making at most `fuel` nested calls:
each call takes one tick, and the clock gives up (`none`) when a call would
need more. -/
def clocked (limits : Limits) : Nat → Code → Machine → Nat → Option Ending
  | 0, _, _, _ => none
  | fuel + 1, code, machine, iterations =>
    match code with
    | .stmt (.decl name value line) =>
      some (.ofResult (machine.declare name value line) iterations)
    | .stmt (.arrayDecl name size values _) =>
      some (.done (machine.declareArray name values (arrayLength size values)) iterations .next)
    | .stmt (.assign target op value line) =>
      some (.ofResult (machine.assign target op value line) iterations)
    | .stmt (.cond branches elseBody line) =>
      clocked limits fuel (.branches line branches elseBody) machine iterations
    | .stmt (.forLoop init condition step body line) =>
      (clocked limits fuel (.part init) machine iterations).bind fun initialized =>
        initialized.andThen fun machine after =>
          clocked limits fuel (.forLoop condition step body line) machine after
    | .stmt (.whileLoop condition body line) =>
      clocked limits fuel (.whileLoop condition body line) machine iterations
    | .stmt (.doWhile body condition line) =>
      clocked limits fuel (.doWhile body condition line) machine iterations
    | .stmt (.print format args line) =>
      some (.ofResult (machine.print limits.maxOutput format args line) iterations)
    | .stmt (.breakLoop _) => some (.done machine iterations .breakLoop)
    | .stmt (.continueLoop _) => some (.done machine iterations .continueLoop)
    | .stmt (.ret none _) => some (.done machine iterations (.returned none))
    | .stmt (.ret (some value) line) =>
      some <| match eval machine.store (some line) value with
        | .ok result => .done machine iterations (.returned (some result))
        | .error error => .failed (.runtime error) iterations
    | .part (some stmt) => clocked limits fuel (.stmt stmt) machine iterations
    | .part none => some (.done machine iterations .next)
    | .body [] => some (.done machine iterations .next)
    | .body (stmt :: more) =>
      (clocked limits fuel (.stmt stmt) machine iterations).bind fun first =>
        first.andThen fun machine after => clocked limits fuel (.body more) machine after
    | .branches _ [] elseBody => clocked limits fuel (.body elseBody) machine iterations
    | .branches line (.mk condition body :: more) elseBody =>
      match holds machine.store (some line) condition with
      | .error error => some (.failed (.runtime error) iterations)
      | .ok true => clocked limits fuel (.body body) machine iterations
      | .ok false => clocked limits fuel (.branches line more elseBody) machine iterations
    | .forLoop condition step body line =>
      match loopHolds machine line condition with
      | .error failure => some (.failed failure iterations)
      | .ok false => some (.done machine iterations .next)
      | .ok true =>
        if iterations < limits.loopBudget then
          (clocked limits fuel (.body body) machine (iterations + 1)).bind fun ran =>
            ran.loopOn fun machine after =>
              (clocked limits fuel (.part step) machine after).bind fun stepped =>
                stepped.andThen fun machine after =>
                  clocked limits fuel (.forLoop condition step body line) machine after
        else some (.failed (budgetExceeded limits line) (iterations + 1))
    | .whileLoop condition body line =>
      match holds machine.store (some line) condition with
      | .error error => some (.failed (.runtime error) iterations)
      | .ok false => some (.done machine iterations .next)
      | .ok true =>
        if iterations < limits.loopBudget then
          (clocked limits fuel (.body body) machine (iterations + 1)).bind fun ran =>
            ran.loopOn fun machine after =>
              clocked limits fuel (.whileLoop condition body line) machine after
        else some (.failed (budgetExceeded limits line) (iterations + 1))
    | .doWhile body condition line =>
      if iterations < limits.loopBudget then
        (clocked limits fuel (.body body) machine (iterations + 1)).bind fun ran =>
          ran.loopOn fun machine after =>
            match holds machine.store (some line) condition with
            | .error error => some (.failed (.runtime error) after)
            | .ok false => some (.done machine after .next)
            | .ok true => clocked limits fuel (.doWhile body condition line) machine after
      else some (.failed (budgetExceeded limits line) (iterations + 1))

end Exec

namespace Ending

variable {first body ending : Ending} {next : Machine → Nat → Option Ending}

theorem andThen_eq_some (moved : first.andThen next = some ending) :
    (∃ machine iterations, first = .done machine iterations .next ∧
      next machine iterations = some ending) ∨ (first.proceeds = false ∧ ending = first) := by
  cases first with
  | done machine iterations flow =>
      cases flow with
      | next => exact .inl ⟨machine, iterations, rfl, moved⟩
      | breakLoop | continueLoop | returned _ =>
          cases moved
          exact .inr ⟨rfl, rfl⟩
  | failed failure count =>
      cases moved
      exact .inr ⟨rfl, rfl⟩

theorem loopOn_eq_some (looped : body.loopOn next = some ending) :
    (∃ machine iterations flow, body = .done machine iterations flow ∧ flow.latches = true ∧
      next machine iterations = some ending) ∨ body.exit? = some ending := by
  cases body with
  | done machine iterations flow =>
      cases flow with
      | next | continueLoop => exact .inl ⟨machine, iterations, _, rfl, rfl, looped⟩
      | breakLoop | returned _ =>
          cases looped
          exact .inr rfl
  | failed failure count =>
      cases looped
      exact .inr rfl

end Ending

/-! ## What the clock answers is a run -/

section Sound

variable {limits : Limits} {machine : Machine} {iterations : Nat}

theorem Runs.declare_ofResult {name : String} {value : Option Expr} {line : Nat} :
    Runs limits (.stmt (.decl name value line)) machine iterations
      (.ofResult (machine.declare name value line) iterations) := by
  cases declared : machine.declare name value line with
  | ok machine' => exact .declare declared
  | error failure => exact .declareFails declared

theorem Runs.assign_ofResult {target : Target} {op : AssignOp} {value : Expr} {line : Nat} :
    Runs limits (.stmt (.assign target op value line)) machine iterations
      (.ofResult (machine.assign target op value line) iterations) := by
  cases assigned : machine.assign target op value line with
  | ok machine' => exact .assign assigned
  | error failure => exact .assignFails assigned

theorem Runs.print_ofResult {format : String} {args : List Expr} {line : Nat} :
    Runs limits (.stmt (.print format args line)) machine iterations
      (.ofResult (machine.print limits.maxOutput format args line) iterations) := by
  cases printed : machine.print limits.maxOutput format args line with
  | ok machine' => exact .print printed
  | error failure => exact .printFails printed

/-- Whatever the clocked executor answers is how a run of the code ends. -/
theorem Runs.of_clocked {fuel : Nat} {code : Code} {ending : Ending}
    (answered : Exec.clocked limits fuel code machine iterations = some ending) :
    Runs limits code machine iterations ending := by
  induction fuel generalizing code machine iterations ending with
  | zero => cases answered
  | succ fuel ih =>
      unfold Exec.clocked at answered
      -- one arm per way the code goes, each closed by the rule of `Runs`
      -- that goes that way
      cases code with
      | stmt stmt =>
          cases stmt with
          | decl name value line =>
              cases answered
              exact Runs.declare_ofResult
          | arrayDecl name size values line =>
              cases answered
              exact .declareArray
          | assign target op value line =>
              cases answered
              exact Runs.assign_ofResult
          | cond branches elseBody line => exact .cond (ih answered)
          | forLoop init condition step body line =>
              obtain ⟨initialized, initRan, onward⟩ := Option.bind_eq_some_iff.mp answered
              rcases Ending.andThen_eq_some onward with ⟨machine', after, rfl, looped⟩ | ⟨stops, rfl⟩
              · exact .forLoop (ih initRan) (ih looped)
              · exact .forInitStops (ih initRan) stops
          | whileLoop condition body line => exact .whileLoop (ih answered)
          | doWhile body condition line => exact .doWhile (ih answered)
          | print format args line =>
              cases answered
              exact Runs.print_ofResult
          | breakLoop line =>
              cases answered
              exact .breakLoop
          | continueLoop line =>
              cases answered
              exact .continueLoop
          | ret value line =>
              cases value with
              | none =>
                  cases answered
                  exact .returnNothing
              | some value =>
                  cases answered
                  cases evaluated : eval machine.store (some line) value with
                  | ok result => exact .returnValue evaluated
                  | error error => exact .returnFails evaluated
      | part part =>
          cases part with
          | some stmt => exact .partSome (ih answered)
          | none =>
              cases answered
              exact .partNone
      | body body =>
          cases body with
          | nil =>
              cases answered
              exact .bodyNil
          | cons stmt more =>
              obtain ⟨first, firstRan, onward⟩ := Option.bind_eq_some_iff.mp answered
              rcases Ending.andThen_eq_some onward with ⟨machine', after, rfl, rest⟩ | ⟨stops, rfl⟩
              · exact .bodyCons (ih firstRan) (ih rest)
              · exact .bodyStops (ih firstRan) stops
      | branches line branches elseBody =>
          cases branches with
          | nil => exact .branchesElse (ih answered)
          | cons branch more =>
              obtain ⟨condition, body⟩ := branch
              simp only at answered
              split at answered
              · next refused =>
                  cases answered
                  exact .branchFails refused
              · next chosen => exact .branchTaken chosen (ih answered)
              · next skipped => exact .branchSkipped skipped (ih answered)
      | forLoop condition step body line =>
          simp only at answered
          split at answered
          · next refused =>
              cases answered
              exact .forFails refused
          · next ended =>
              cases answered
              exact .forEnds ended
          · next held =>
              split at answered
              · next within =>
                  obtain ⟨ran, bodyRan, onward⟩ := Option.bind_eq_some_iff.mp answered
                  rcases Ending.loopOn_eq_some onward with
                    ⟨machine', after, flow, rfl, latched, stepping⟩ | exits
                  · obtain ⟨stepped, stepRan, onward⟩ := Option.bind_eq_some_iff.mp stepping
                    rcases Ending.andThen_eq_some onward with
                      ⟨machine'', after', rfl, looped⟩ | ⟨stops, rfl⟩
                    · exact .forRepeats held within (ih bodyRan) latched (ih stepRan) (ih looped)
                    · exact .forStepStops held within (ih bodyRan) latched (ih stepRan) stops
                  · exact .forExits held within (ih bodyRan) exits
              · next spent =>
                  cases answered
                  exact .forOverBudget held (Nat.le_of_not_lt spent)
      | whileLoop condition body line =>
          simp only at answered
          split at answered
          · next refused =>
              cases answered
              exact .whileFails refused
          · next ended =>
              cases answered
              exact .whileEnds ended
          · next held =>
              split at answered
              · next within =>
                  obtain ⟨ran, bodyRan, onward⟩ := Option.bind_eq_some_iff.mp answered
                  rcases Ending.loopOn_eq_some onward with
                    ⟨machine', after, flow, rfl, latched, looped⟩ | exits
                  · exact .whileRepeats held within (ih bodyRan) latched (ih looped)
                  · exact .whileExits held within (ih bodyRan) exits
              · next spent =>
                  cases answered
                  exact .whileOverBudget held (Nat.le_of_not_lt spent)
      | doWhile body condition line =>
          simp only at answered
          split at answered
          · next within =>
              obtain ⟨ran, bodyRan, onward⟩ := Option.bind_eq_some_iff.mp answered
              rcases Ending.loopOn_eq_some onward with
                ⟨machine', after, flow, rfl, latched, tested⟩ | exits
              · split at tested
                · next refused =>
                    cases tested
                    exact .doFails within (ih bodyRan) latched refused
                · next ended =>
                    cases tested
                    exact .doEnds within (ih bodyRan) latched ended
                · next held => exact .doRepeats within (ih bodyRan) latched held (ih tested)
              · exact .doExits within (ih bodyRan) exits
          · next spent =>
              cases answered
              exact .doOverBudget (Nat.le_of_not_lt spent)

end Sound

/-- The loop count of a run never falls. -/
theorem Runs.iterations_le {limits : Limits} {code : Code} {machine : Machine} {iterations : Nat}
    {ending : Ending} (ran : Runs limits code machine iterations ending) :
    iterations ≤ ending.iterations := by
  induction ran with
  | declare | declareFails | declareArray | assign | assignFails | print | printFails
  | breakLoop | continueLoop | returnValue | returnFails | returnNothing | partNone | bodyNil
  | branchFails | forFails | forEnds | whileFails | whileEnds => exact Nat.le_refl _
  | forOverBudget | whileOverBudget | doOverBudget => exact Nat.le_succ _
  | cond _ arms | forInitStops _ _ arms | whileLoop _ arms | doWhile _ arms | partSome _ arms
  | bodyStops _ _ arms | branchesElse _ arms | branchTaken _ _ arms | branchSkipped _ _ arms =>
      exact arms
  | forLoop _ _ initialized loop | bodyCons _ _ initialized loop =>
      exact Nat.le_trans initialized loop
  | forExits _ _ _ exits ran | whileExits _ _ _ exits ran | doExits _ _ exits ran =>
      rw [Ending.iterations_of_exit exits]
      exact Nat.le_trans (Nat.le_succ _) ran
  | forStepStops _ _ _ _ _ _ ran stepped =>
      exact Nat.le_trans (Nat.le_succ _) (Nat.le_trans ran stepped)
  | forRepeats _ _ _ _ _ _ ran steppedOn loop =>
      exact Nat.le_trans (Nat.le_succ _) (Nat.le_trans ran (Nat.le_trans steppedOn loop))
  | whileRepeats _ _ _ _ _ ran loop | doRepeats _ _ _ _ _ ran loop =>
      exact Nat.le_trans (Nat.le_succ _) (Nat.le_trans ran loop)
  | doFails _ _ _ _ ran | doEnds _ _ _ _ ran => exact Nat.le_trans (Nat.le_succ _) ran

/-! ## The clock never runs out -/

namespace Stmt

mutual

/-- The size of a statement: the statements in it, itself and nested ones,
and the arms of its `if` chains. -/
def size : Stmt → Nat
  | .cond branches elseBody _ => branchesSize branches + bodySize elseBody + 1
  | .forLoop init _ step body _ => partSize init + partSize step + bodySize body + 1
  | .whileLoop _ body _ | .doWhile body _ _ => bodySize body + 1
  | .decl .. | .arrayDecl .. | .assign .. | .print .. | .breakLoop _ | .continueLoop _
  | .ret .. => 1

/-- The size of the initializer or step of a `for`, if there is one. -/
def partSize : Option Stmt → Nat
  | some stmt => size stmt
  | none => 0

/-- The size of a body. -/
def bodySize : List Stmt → Nat
  | [] => 0
  | stmt :: more => size stmt + bodySize more

/-- The size of the arms of an `if` chain. -/
def branchesSize : List Branch → Nat
  | [] => 0
  | .mk _ body :: more => bodySize body + branchesSize more + 1

end

theorem size_pos (stmt : Stmt) : 0 < stmt.size := by
  cases stmt <;> simp [size]

end Stmt

/-- The rank of a piece of code. Running it calls code of lower rank at no
lower a loop count, and code of no higher rank at a higher count: the body
and step of a loop, and the loop again, after an iteration is counted. -/
def Code.rank : Code → Nat
  | .stmt statement => 3 * statement.size
  | .part piece => 3 * Stmt.partSize piece + 1
  | .body stmts => 3 * Stmt.bodySize stmts + 1
  | .branches _ arms elseBody => 3 * (Stmt.branchesSize arms + Stmt.bodySize elseBody) + 2
  | .forLoop _ step loopBody _ => 3 * (Stmt.partSize step + Stmt.bodySize loopBody) + 2
  | .whileLoop _ loopBody _ | .doWhile loopBody _ _ => 3 * Stmt.bodySize loopBody + 2

namespace Ending

variable {first body : Ending} {next : Machine → Nat → Option Ending}

theorem andThen_isSome
    (onward : ∀ machine iterations, first = .done machine iterations .next →
      (next machine iterations).isSome) :
    (first.andThen next).isSome := by
  cases first with
  | done machine iterations flow =>
      cases flow with
      | next => exact onward machine iterations rfl
      | breakLoop | continueLoop | returned _ => rfl
  | failed failure count => rfl

theorem loopOn_isSome
    (onward : ∀ machine iterations flow, body = .done machine iterations flow →
      (next machine iterations).isSome) :
    (body.loopOn next).isSome := by
  cases body with
  | done machine iterations flow =>
      cases flow with
      | next | continueLoop => exact onward machine iterations _ rfl
      | breakLoop | returned _ => rfl
  | failed failure count => rfl

end Ending

/-- A call the clock answers, then calls it answers from wherever that one
ended. -/
theorem clocked_bind_isSome {limits : Limits} {fuel : Nat} {code : Code} {machine : Machine}
    {iterations : Nat} {next : Ending → Option Ending}
    (first : (Exec.clocked limits fuel code machine iterations).isSome)
    (onward : ∀ ending, Runs limits code machine iterations ending → (next ending).isSome) :
    ((Exec.clocked limits fuel code machine iterations).bind next).isSome := by
  obtain ⟨ending, answered⟩ := Option.isSome_iff_exists.mp first
  rw [answered]
  exact onward ending (Runs.of_clocked answered)

/-- The clock never runs out when its fuel is above the count left in the
budget plus the rank of the code. -/
theorem clocked_isSome {limits : Limits} {fuel : Nat} {code : Code} {machine : Machine}
    {iterations : Nat} (enough : limits.loopBudget - iterations + code.rank < fuel) :
    (Exec.clocked limits fuel code machine iterations).isSome := by
  induction fuel generalizing code machine iterations with
  | zero => exact absurd enough (Nat.not_lt_zero _)
  | succ fuel ih =>
      unfold Exec.clocked
      -- each call is to code of lower rank at no lower a count, or to code
      -- of no higher rank at a higher count within the budget
      cases code with
      | stmt stmt =>
          cases stmt with
          | decl | arrayDecl | assign | print | breakLoop | continueLoop => rfl
          | ret value line => cases value <;> rfl
          | cond branches elseBody line =>
              exact ih (by simp only [Code.rank, Stmt.size] at enough ⊢; omega)
          | forLoop init condition step body line =>
              refine clocked_bind_isSome
                (ih (by simp only [Code.rank, Stmt.size] at enough ⊢; omega)) fun _ initRan => ?_
              refine Ending.andThen_isSome fun machine' after initialized => ?_
              have grew : iterations ≤ after := by subst initialized; exact initRan.iterations_le
              exact ih (by simp only [Code.rank, Stmt.size] at enough ⊢; omega)
          | whileLoop condition body line | doWhile body condition line =>
              exact ih (by simp only [Code.rank, Stmt.size] at enough ⊢; omega)
      | part part =>
          cases part with
          | some stmt => exact ih (by simp only [Code.rank, Stmt.partSize] at enough ⊢; omega)
          | none => rfl
      | body body =>
          cases body with
          | nil => rfl
          | cons stmt more =>
              have positive := Stmt.size_pos stmt
              refine clocked_bind_isSome
                (ih (by simp only [Code.rank, Stmt.bodySize] at enough ⊢; omega)) fun _ firstRan => ?_
              refine Ending.andThen_isSome fun machine' after first => ?_
              have grew : iterations ≤ after := by subst first; exact firstRan.iterations_le
              exact ih (by simp only [Code.rank, Stmt.bodySize] at enough ⊢; omega)
      | branches line branches elseBody =>
          cases branches with
          | nil => exact ih (by simp only [Code.rank, Stmt.branchesSize] at enough ⊢; omega)
          | cons branch more =>
              obtain ⟨condition, body⟩ := branch
              simp only
              split
              · rfl
              · exact ih (by simp only [Code.rank, Stmt.branchesSize] at enough ⊢; omega)
              · exact ih (by simp only [Code.rank, Stmt.branchesSize] at enough ⊢; omega)
      | forLoop condition step body line =>
          simp only
          split
          · rfl
          · rfl
          · split
            · next within =>
                refine clocked_bind_isSome
                  (ih (by simp only [Code.rank] at enough ⊢; omega)) fun _ bodyRan => ?_
                refine Ending.loopOn_isSome fun machine' after flow ran => ?_
                have grew : iterations + 1 ≤ after := by subst ran; exact bodyRan.iterations_le
                refine clocked_bind_isSome
                  (ih (by simp only [Code.rank] at enough ⊢; omega)) fun _ stepRan => ?_
                refine Ending.andThen_isSome fun machine'' after' stepped => ?_
                have grewAgain : after ≤ after' := by subst stepped; exact stepRan.iterations_le
                exact ih (by simp only [Code.rank] at enough ⊢; omega)
            · rfl
      | whileLoop condition body line =>
          simp only
          split
          · rfl
          · rfl
          · split
            · next within =>
                refine clocked_bind_isSome
                  (ih (by simp only [Code.rank] at enough ⊢; omega)) fun _ bodyRan => ?_
                refine Ending.loopOn_isSome fun machine' after flow ran => ?_
                have grew : iterations + 1 ≤ after := by subst ran; exact bodyRan.iterations_le
                exact ih (by simp only [Code.rank] at enough ⊢; omega)
            · rfl
      | doWhile body condition line =>
          simp only
          split
          · next within =>
              refine clocked_bind_isSome
                (ih (by simp only [Code.rank] at enough ⊢; omega)) fun _ bodyRan => ?_
              refine Ending.loopOn_isSome fun machine' after flow ran => ?_
              have grew : iterations + 1 ≤ after := by subst ran; exact bodyRan.iterations_le
              split
              · rfl
              · rfl
              · exact ih (by simp only [Code.rank] at enough ⊢; omega)
          · rfl

/-- Every program ends within the clock: its run, one tick a call, nests no
deeper than the loop budget plus the rank of the program, whatever the
program and the starting store, and its answer is the executor's. -/
theorem execute_within_clock (limits : Limits) (store : Store) (body : List Stmt) :
    ∃ ending, Exec.clocked limits (limits.loopBudget + (Code.body body).rank + 1) (.body body)
        (Machine.start store) 0 = some ending ∧
      execute limits store body =
        ending.result.bind fun (machine, iterations, flow) => flow.finish machine iterations := by
  have enough : limits.loopBudget - 0 + (Code.body body).rank <
      limits.loopBudget + (Code.body body).rank + 1 := by omega
  obtain ⟨ending, answered⟩ := Option.isSome_iff_exists.mp (clocked_isSome enough)
  exact ⟨ending, answered, execute_eq_of_runs (Runs.of_clocked answered)⟩

end ClassroomC
