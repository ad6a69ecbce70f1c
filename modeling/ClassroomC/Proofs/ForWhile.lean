import ClassroomC.Proofs.Runs
import ClassroomC.Proofs.Unmarked

/-!
# A `for` loop is its `while` form

`for (init; condition; step) body` runs as `init` followed by
`while (condition) { body step }`, with `1` for a missing condition
(`Stmt.whileForm`), when the step is an assignment and no `continue` in the
body reaches the loop. The two then have the same runs, ending with the same
machine, loop count and flow, or the same failure at the same loop count;
so the executor gives the same answer for both, from every state
(`for_loop_runs_as_while_form`).

The loops differ only in where the step runs. The `for` loop runs it after
the body, outside it: after a body that ends normally or by `continue`, but
not after `break`, a `return` or a failure. The `while` form runs it as the
last statement of the body, which a `continue` skips and a `break` leaves
out as well. So the two agree exactly when the body never ends by
`continue` (`Runs.continues`), and when the step, run as part of the body,
leaves it as it leaves a `for` loop: an assignment goes on or fails.
-/

namespace ClassroomC

namespace Stmt

/-- Whether a statement is an assignment: the only statement a `for` loop
has as its step when it is read from source. -/
def isAssignment : Stmt → Bool
  | .assign .. => true
  | _ => false

mutual

/-- Whether a `continue` in the statement can reach the loop around it: one
outside every loop in it, or one in the initializer or step of a `for` in
it, since these run outside the body of that loop. -/
def continues : Stmt → Bool
  | .continueLoop _ => true
  | .cond branches elseBody _ => branchesContinue branches || bodyContinues elseBody
  | .forLoop init _ step _ _ => partContinues init || partContinues step
  | .decl .. | .arrayDecl .. | .assign .. | .whileLoop .. | .doWhile .. | .print ..
  | .breakLoop _ | .ret .. => false

/-- Whether a `continue` in the initializer or step of a `for` can leave it. -/
def partContinues : Option Stmt → Bool
  | some stmt => continues stmt
  | none => false

/-- Whether a `continue` in a body can leave it. -/
def bodyContinues : List Stmt → Bool
  | [] => false
  | stmt :: more => continues stmt || bodyContinues more

/-- Whether a `continue` in the arms of an `if` chain can leave them. -/
def branchesContinue : List Branch → Bool
  | [] => false
  | .mk _ body :: more => bodyContinues body || branchesContinue more

end

/-- The statements a `for` loop stands for: its initializer, then a `while`
loop over its condition, `1` when it has none, whose body ends with the
step. -/
def whileForm (init : Option Stmt) (condition : Option Expr) (step : Option Stmt)
    (body : List Stmt) (line : Nat) : List Stmt :=
  init.toList ++ [.whileLoop (condition.getD (.int 1)) (body ++ step.toList) line]

end Stmt

/-- Whether a `continue` can leave the code. A loop from its head catches
those of its body, but a `for` does not catch those of its step. -/
def Code.continues : Code → Bool
  | .stmt statement => statement.continues
  | .part piece => Stmt.partContinues piece
  | .body stmts => Stmt.bodyContinues stmts
  | .branches _ arms elseBody => Stmt.branchesContinue arms || Stmt.bodyContinues elseBody
  | .forLoop _ step _ _ => Stmt.partContinues step
  | .whileLoop .. | .doWhile .. => false

/-- A run that leaves its code by `continue`. -/
def Ending.Continues : Ending → Prop
  | .done _ _ .continueLoop => True
  | _ => False

theorem Ending.not_continues_of_exit {ending ending' : Ending} (exits : ending.exit? = some ending') :
    ¬ending'.Continues := by
  cases ending with
  | done machine iterations flow =>
      cases flow with
      | next | continueLoop => cases exits
      | breakLoop | returned _ =>
          cases exits
          exact id
  | failed failure count =>
      cases exits
      exact id

/-- Only code in which a `continue` can leave it is left by `continue`. -/
theorem Runs.continues {limits : Limits} {code : Code} {machine : Machine} {iterations : Nat}
    {ending : Ending} (ran : Runs limits code machine iterations ending)
    (continued : ending.Continues) : code.continues = true := by
  induction ran with
  | continueLoop => rfl
  | declare | declareFails | declareArray | assign | assignFails | print | printFails
  | breakLoop | returnValue | returnFails | returnNothing | partNone | bodyNil | branchFails
  | forFails | forEnds | forOverBudget | whileFails | whileEnds | whileOverBudget
  | doOverBudget | doFails | doEnds => exact continued.elim
  | forExits _ _ _ exits | whileExits _ _ _ exits | doExits _ _ exits =>
      exact (Ending.not_continues_of_exit exits continued).elim
  | cond _ arms | partSome _ arms | branchesElse _ arms => exact arms continued
  | forLoop _ _ _ loop =>
      show (Stmt.partContinues _ || Stmt.partContinues _) = true
      exact Bool.or_eq_true_iff.mpr (.inr (loop continued))
  | forInitStops _ _ initialized =>
      show (Stmt.partContinues _ || Stmt.partContinues _) = true
      exact Bool.or_eq_true_iff.mpr (.inl (initialized continued))
  | whileLoop _ loop | doWhile _ loop => exact absurd (loop continued) Bool.false_ne_true
  | bodyCons _ _ _ rest =>
      show (Stmt.continues _ || Stmt.bodyContinues _) = true
      exact Bool.or_eq_true_iff.mpr (.inr (rest continued))
  | bodyStops _ _ first =>
      show (Stmt.continues _ || Stmt.bodyContinues _) = true
      exact Bool.or_eq_true_iff.mpr (.inl (first continued))
  | branchTaken _ _ ran =>
      have chosen : Stmt.bodyContinues _ = true := ran continued
      show ((Stmt.bodyContinues _ || Stmt.branchesContinue _) || Stmt.bodyContinues _) = true
      rw [chosen, Bool.true_or, Bool.true_or]
  | branchSkipped _ _ rest =>
      have later : (Stmt.branchesContinue _ || Stmt.bodyContinues _) = true := rest continued
      show ((Stmt.bodyContinues _ || Stmt.branchesContinue _) || Stmt.bodyContinues _) = true
      rw [Bool.or_assoc, later, Bool.or_true]
  | forStepStops _ _ _ _ _ _ _ stepped => exact stepped continued
  | forRepeats _ _ _ _ _ _ _ _ loop | whileRepeats _ _ _ _ _ _ loop
  | doRepeats _ _ _ _ _ _ loop => exact loop continued

/-! ## Bodies, steps and conditions -/

namespace Ending

theorem eq_done_of_proceeds {ending : Ending} (goesOn : ending.proceeds = true) :
    ∃ machine iterations, ending = .done machine iterations .next := by
  cases ending with
  | done machine iterations flow =>
      cases flow with
      | next => exact ⟨machine, iterations, rfl⟩
      | breakLoop | continueLoop | returned _ => cases goesOn
  | failed failure count => cases goesOn

theorem proceeds_of_exit {ending ending' : Ending} (exits : ending.exit? = some ending') :
    ending.proceeds = false := by
  cases ending with
  | done machine iterations flow =>
      cases flow with
      | next | continueLoop => cases exits
      | breakLoop | returned _ => rfl
  | failed failure count => rfl

end Ending

section Bodies

variable {limits : Limits} {machine : Machine} {iterations : Nat} {ending : Ending}

/-- A body of one statement runs as the statement. -/
theorem Runs.body_singleton {stmt : Stmt} :
    Runs limits (.body [stmt]) machine iterations ending ↔
      Runs limits (.stmt stmt) machine iterations ending := by
  constructor
  · intro ran
    cases ran with
    | bodyCons first rest =>
        cases rest
        exact first
    | bodyStops first _ => exact first
  · intro ran
    cases goesOn : ending.proceeds with
    | true =>
        obtain ⟨machine', after, rfl⟩ := Ending.eq_done_of_proceeds goesOn
        exact .bodyCons ran .bodyNil
    | false => exact .bodyStops ran goesOn

/-- A body made of two parts runs the first, then the second if control goes
on past the first. -/
theorem Runs.body_append_iff {front back : List Stmt} :
    Runs limits (.body (front ++ back)) machine iterations ending ↔
      (∃ machine' after, Runs limits (.body front) machine iterations (.done machine' after .next) ∧
        Runs limits (.body back) machine' after ending) ∨
      (Runs limits (.body front) machine iterations ending ∧ ending.proceeds = false) := by
  induction front generalizing machine iterations with
  | nil =>
      constructor
      · intro ran
        exact .inl ⟨machine, iterations, .bodyNil, ran⟩
      · rintro (⟨machine', after, first, rest⟩ | ⟨first, stops⟩)
        · cases first
          exact rest
        · cases first
          cases stops
  | cons stmt more ih =>
      constructor
      · intro ran
        cases ran with
        | bodyCons first rest =>
            rcases ih.mp rest with ⟨machine', after, front, back⟩ | ⟨front, stops⟩
            · exact .inl ⟨machine', after, .bodyCons first front, back⟩
            · exact .inr ⟨.bodyCons first front, stops⟩
        | bodyStops first stops => exact .inr ⟨.bodyStops first stops, stops⟩
      · rintro (⟨machine', after, first, rest⟩ | ⟨first, stops⟩)
        · cases first with
          | bodyCons head tail => exact .bodyCons head (ih.mpr (.inl ⟨machine', after, tail, rest⟩))
          | bodyStops _ stops => cases stops
        · cases first with
          | bodyCons head tail => exact .bodyCons head (ih.mpr (.inr ⟨tail, stops⟩))
          | bodyStops head _ => exact .bodyStops head stops

/-- A body that no `continue` leaves and that goes back to its loop's head
ended normally. -/
theorem Runs.body_goes_on {body : List Stmt} (noContinue : Stmt.bodyContinues body = false)
    {machine' : Machine} {after : Nat} {flow : Flow}
    (ran : Runs limits (.body body) machine iterations (.done machine' after flow))
    (latched : flow.latches = true) : flow = .next := by
  cases flow with
  | next => rfl
  | continueLoop => exact absurd (ran.continues trivial) (by simp [Code.continues, noContinue])
  | breakLoop | returned _ => cases latched

/-- An assignment that finishes goes on to the next statement. -/
theorem Runs.assignment_proceeds {stmt : Stmt} (assigns : stmt.isAssignment = true)
    {machine' : Machine} {after : Nat} {flow : Flow}
    (ran : Runs limits (.stmt stmt) machine iterations (.done machine' after flow)) :
    flow = .next := by
  cases stmt with
  | assign target op value line =>
      cases ran
      rfl
  | _ => cases assigns

/-- The initializer or step of a `for` runs as the body of its statements. -/
theorem Runs.body_toList_iff {part : Option Stmt} :
    Runs limits (.body part.toList) machine iterations ending ↔
      Runs limits (.part part) machine iterations ending := by
  cases part with
  | none =>
      constructor
      · intro ran
        cases ran
        exact .partNone
      · intro ran
        cases ran
        exact .bodyNil
  | some stmt =>
      constructor
      · intro ran
        exact .partSome (Runs.body_singleton.mp ran)
      · intro ran
        cases ran with
        | partSome ran => exact Runs.body_singleton.mpr ran

/-- A step that is an assignment, if any, goes on when it finishes. -/
theorem Runs.step_proceeds {step : Option Stmt} (stepAssigns : step.all Stmt.isAssignment = true)
    {machine' : Machine} {after : Nat} {flow : Flow}
    (ran : Runs limits (.part step) machine iterations (.done machine' after flow)) :
    flow = .next := by
  cases step with
  | none =>
      cases ran
      rfl
  | some stmt =>
      cases ran with
      | partSome ran => exact Runs.assignment_proceeds stepAssigns ran

/-- A step that is an assignment, if any, leaves the loop only by failing. -/
theorem Runs.step_exits {step : Option Stmt} (stepAssigns : step.all Stmt.isAssignment = true)
    (ran : Runs limits (.part step) machine iterations ending) (stops : ending.proceeds = false) :
    ending.exit? = some ending := by
  cases ending with
  | done machine' after flow =>
      obtain rfl := Runs.step_proceeds stepAssigns ran
      cases stops
  | failed failure count => rfl

end Bodies

/-- The condition of a `for` loop is that of its `while` form, `1` when it
has none. -/
theorem Exec.loopHolds_eq_holds (machine : Machine) (line : Nat) (condition : Option Expr) :
    Exec.loopHolds machine line condition =
      (holds machine.store (some line) (condition.getD (.int 1))).mapError Failure.runtime := by
  cases condition with
  | some condition => rfl
  | none => rfl

theorem Exec.loopHolds_of_holds {machine : Machine} {line : Nat} {condition : Option Expr}
    {holding : Bool} (held : holds machine.store (some line) (condition.getD (.int 1)) = .ok holding) :
    Exec.loopHolds machine line condition = .ok holding := by
  rw [Exec.loopHolds_eq_holds, held]
  rfl

theorem Exec.holds_of_loopHolds {machine : Machine} {line : Nat} {condition : Option Expr}
    {holding : Bool} (held : Exec.loopHolds machine line condition = .ok holding) :
    holds machine.store (some line) (condition.getD (.int 1)) = .ok holding := by
  rw [Exec.loopHolds_eq_holds] at held
  exact mapError_eq_ok held

/-! ## The loop from its head -/

section Loops

variable {limits : Limits} {condition : Option Expr} {step : Option Stmt} {body : List Stmt}
  {line : Nat}

/-- A `for` loop from its head runs as the `while` loop of its `while` form. -/
theorem Runs.whileForm_of_forLoop (stepAssigns : step.all Stmt.isAssignment = true)
    (noContinue : Stmt.bodyContinues body = false) {machine : Machine} {iterations : Nat}
    {ending : Ending} (ran : Runs limits (.forLoop condition step body line) machine iterations ending) :
    Runs limits (.whileLoop (condition.getD (.int 1)) (body ++ step.toList) line) machine iterations
      ending := by
  generalize loopIs : Code.forLoop condition step body line = code at ran
  -- only the rules of a `for` loop from its head apply; each is matched by
  -- the rule of the `while` loop that makes the same test
  induction ran with
  | forFails refused =>
      cases loopIs
      rw [Exec.loopHolds_eq_holds] at refused
      obtain ⟨error, refusedHere, rfl⟩ := mapError_eq_error refused
      exact .whileFails refusedHere
  | forEnds ended =>
      cases loopIs
      exact .whileEnds (Exec.holds_of_loopHolds ended)
  | forOverBudget held spent =>
      cases loopIs
      exact .whileOverBudget (Exec.holds_of_loopHolds held) spent
  | forExits held within ran exits =>
      cases loopIs
      exact .whileExits (Exec.holds_of_loopHolds held) within
        (Runs.body_append_iff.mpr (.inr ⟨ran, Ending.proceeds_of_exit exits⟩)) exits
  | forStepStops held within ran latched stepped stops =>
      cases loopIs
      obtain rfl := Runs.body_goes_on noContinue ran latched
      -- the step left the loop, so it failed
      exact .whileExits (Exec.holds_of_loopHolds held) within
        (Runs.body_append_iff.mpr (.inl ⟨_, _, ran, Runs.body_toList_iff.mpr stepped⟩))
        (Runs.step_exits stepAssigns stepped stops)
  | forRepeats held within ran latched steppedOn loop _ _ loopIh =>
      cases loopIs
      obtain rfl := Runs.body_goes_on noContinue ran latched
      exact .whileRepeats (Exec.holds_of_loopHolds held) within
        (Runs.body_append_iff.mpr (.inl ⟨_, _, ran, Runs.body_toList_iff.mpr steppedOn⟩)) rfl
        (loopIh rfl)
  | _ => cases loopIs

/-- The `while` loop of a `for` loop's `while` form runs as the `for` loop
from its head. -/
theorem Runs.forLoop_of_whileForm (stepAssigns : step.all Stmt.isAssignment = true)
    (noContinue : Stmt.bodyContinues body = false) {machine : Machine} {iterations : Nat}
    {ending : Ending}
    (ran : Runs limits (.whileLoop (condition.getD (.int 1)) (body ++ step.toList) line) machine
      iterations ending) :
    Runs limits (.forLoop condition step body line) machine iterations ending := by
  generalize loopIs : Code.whileLoop (condition.getD (.int 1)) (body ++ step.toList) line = code
    at ran
  induction ran with
  | whileFails refused =>
      cases loopIs
      exact .forFails (by rw [Exec.loopHolds_eq_holds, refused]; rfl)
  | whileEnds ended =>
      cases loopIs
      exact .forEnds (Exec.loopHolds_of_holds ended)
  | whileOverBudget held spent =>
      cases loopIs
      exact .forOverBudget (Exec.loopHolds_of_holds held) spent
  | whileExits held within ran exits =>
      cases loopIs
      have held' := Exec.loopHolds_of_holds held
      -- the body left the loop itself, or went on to the step, which failed
      rcases Runs.body_append_iff.mp ran with ⟨machine', after, bodyRan, stepRan⟩ | ⟨bodyRan, _⟩
      · have stepped := Runs.body_toList_iff.mp stepRan
        have stops := Ending.proceeds_of_exit exits
        rw [Runs.step_exits stepAssigns stepped stops] at exits
        cases exits
        exact .forStepStops held' within bodyRan rfl stepped stops
      · exact .forExits held' within bodyRan exits
  | whileRepeats held within ran latched loop _ loopIh =>
      cases loopIs
      have held' := Exec.loopHolds_of_holds held
      rcases Runs.body_append_iff.mp ran with ⟨machine', after, bodyRan, stepRan⟩ | ⟨bodyRan, stops⟩
      · have stepped := Runs.body_toList_iff.mp stepRan
        obtain rfl := Runs.step_proceeds stepAssigns stepped
        exact .forRepeats held' within bodyRan rfl stepped (loopIh rfl)
      · -- a body that goes back to the head ends normally, so it went on
        obtain rfl := Runs.body_goes_on noContinue bodyRan latched
        cases stops
  | _ => cases loopIs

end Loops

/-! ## The loop as a statement -/

/-- The executor's answer shows a step whole: two steps with the same
machine, loop count and flow are one. -/
theorem Step.map_view_injective {floor : Nat} {answer answer' : Except Failure (Step floor)}
    (same : answer.map Step.view = answer'.map Step.view) : answer = answer' := by
  cases answer with
  | error failure =>
      cases answer' with
      | error failure' =>
          cases same
          rfl
      | ok step' => cases same
  | ok step =>
      cases answer' with
      | error failure' => cases same
      | ok step' =>
          obtain ⟨machine, iterations, flow, _⟩ := step
          obtain ⟨machine', iterations', flow', _⟩ := step'
          cases same
          rfl

/-- A statement and a body with the same runs get the same answer from the
executor. -/
theorem execStmt_eq_execBody {limits : Limits} {floor : Nat} {machine : Machine} {iterations : Nat}
    (above : floor ≤ iterations) {stmt : Stmt} {body : List Stmt}
    (same : ∀ ending, Runs limits (.stmt stmt) machine iterations ending ↔
      Runs limits (.body body) machine iterations ending) :
    Exec.execStmt limits floor machine iterations above stmt =
      Exec.execBody limits floor machine iterations above body := by
  obtain ⟨ending, ran, answer⟩ := (exec_answers limits).1 floor machine iterations above stmt
  obtain ⟨ending', ran', answer'⟩ := (exec_answers limits).2.2.1 floor machine iterations above body
  obtain rfl := Runs.deterministic ((same ending).mp ran) ran'
  exact Step.map_view_injective (answer.trans answer'.symm)

section Statement

variable {limits : Limits} {init : Option Stmt} {condition : Option Expr} {step : Option Stmt}
  {body : List Stmt} {line : Nat}

/-- A `for` loop runs as its `while` form when its step is an assignment, if
any, and no `continue` leaves its body. -/
theorem Runs.forLoop_iff_whileForm (stepAssigns : step.all Stmt.isAssignment = true)
    (noContinue : Stmt.bodyContinues body = false) {machine : Machine} {iterations : Nat}
    {ending : Ending} :
    Runs limits (.stmt (.forLoop init condition step body line)) machine iterations ending ↔
      Runs limits (.body (Stmt.whileForm init condition step body line)) machine iterations
        ending := by
  -- the `while` statement runs as the `for` loop from its head
  have loop : ∀ machine iterations ending,
      Runs limits (.body [.whileLoop (condition.getD (.int 1)) (body ++ step.toList) line])
        machine iterations ending ↔
        Runs limits (.forLoop condition step body line) machine iterations ending := by
    intro machine iterations ending
    rw [Runs.body_singleton]
    constructor
    · intro ran
      cases ran with
      | whileLoop loop => exact Runs.forLoop_of_whileForm stepAssigns noContinue loop
    · intro ran
      exact .whileLoop (Runs.whileForm_of_forLoop stepAssigns noContinue ran)
  -- the initializer runs first in both, and the loop if control goes on
  rw [Stmt.whileForm, Runs.body_append_iff]
  simp only [Runs.body_toList_iff]
  constructor
  · intro ran
    cases ran with
    | forLoop initialized looped => exact .inl ⟨_, _, initialized, (loop _ _ _).mpr looped⟩
    | forInitStops initialized stops => exact .inr ⟨initialized, stops⟩
  · rintro (⟨machine', after, initialized, looped⟩ | ⟨initialized, stops⟩)
    · exact .forLoop initialized ((loop _ _ _).mp looped)
    · exact .forInitStops initialized stops

end Statement

/-- A `for` loop runs as its `while` form: the same runs from every machine
and loop count, and so the same answer of the executor, from every state. -/
def Stmt.RunsAsWhileForm (init : Option Stmt) (condition : Option Expr) (step : Option Stmt)
    (body : List Stmt) (line : Nat) : Prop :=
  (∀ limits machine iterations ending,
    Runs limits (.stmt (.forLoop init condition step body line)) machine iterations ending ↔
      Runs limits (.body (whileForm init condition step body line)) machine iterations ending) ∧
  ∀ limits floor machine iterations (above : floor ≤ iterations),
    Exec.execStmt limits floor machine iterations above (.forLoop init condition step body line) =
      Exec.execBody limits floor machine iterations above (whileForm init condition step body line)

/-- A `for` loop whose step is an assignment, if it has one, and whose body
no `continue` leaves, runs as its `while` form. -/
theorem for_loop_runs_as_while_form {init : Option Stmt} {condition : Option Expr}
    {step : Option Stmt} {body : List Stmt} {line : Nat}
    (stepAssigns : step.all Stmt.isAssignment = true)
    (noContinue : Stmt.bodyContinues body = false) :
    Stmt.RunsAsWhileForm init condition step body line :=
  ⟨fun _ _ _ _ => Runs.forLoop_iff_whileForm stepAssigns noContinue,
    fun _ _ _ _ above => execStmt_eq_execBody above fun _ =>
      Runs.forLoop_iff_whileForm stepAssigns noContinue⟩

/-- The loop `for (int i = 0; i < 3; i += 1) { if (i == 1) break; printf("%d", i); }`
runs as its `while` form. -/
theorem for_loop_runs_as_while_form_counting :
    (some (Stmt.assign (.var "i") .add (.int 1) 3)).all Stmt.isAssignment = true ∧
      Stmt.bodyContinues [.cond [.mk (.binary .eq (.var "i") (.int 1)) [.breakLoop 4]] [] 4,
        .print "%d" [.var "i"] 5] = false ∧
      Stmt.RunsAsWhileForm (some (.decl "i" (some (.int 0)) 3))
        (some (.binary .lt (.var "i") (.int 3))) (some (.assign (.var "i") .add (.int 1) 3))
        [.cond [.mk (.binary .eq (.var "i") (.int 1)) [.breakLoop 4]] [] 4,
          .print "%d" [.var "i"] 5] 3 :=
  ⟨by decide, by decide, for_loop_runs_as_while_form (by decide) (by decide)⟩

end ClassroomC
