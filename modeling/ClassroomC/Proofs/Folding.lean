import ClassroomC.Proofs.Unmarked

/-!
# Constant folding agrees with the run

While preparing the store, the binder evaluates the initializer of a
top-level declaration when it reads only *constants*: top-level scalars
declared that way and not written since, in source order. A run that gets
to the declaration evaluates the same initializer again, and it finds every
constant holding the value the binder gave it: a top-level declaration runs
whenever the run gets past it, and nothing between it and the use writes
the name, or the binder would have dropped the constant.

So the binder computes what the run computes, the same value or the same
error. When folding fails, preparing the program fails with the error that
every run reaching the declaration raises there; a run that stops earlier
(an error of its own, a `return`, the loop budget) is never made.
-/

namespace ClassroomC

namespace Stmt

mutual

/-- The names a statement may declare or assign, nested bodies included. -/
def writes : Stmt → List String
  | .decl name _ _ | .arrayDecl name _ _ _ => [name]
  | .assign target _ _ _ => [target.name]
  | .cond branches elseBody _ => branchesWrites branches ++ bodyWrites elseBody
  | .forLoop init _ step body _ => partWrites init ++ bodyWrites body ++ partWrites step
  | .whileLoop _ body _ | .doWhile body _ _ => bodyWrites body
  | .print .. | .breakLoop _ | .continueLoop _ | .ret .. => []

def partWrites : Option Stmt → List String
  | some stmt => writes stmt
  | none => []

def bodyWrites : List Stmt → List String
  | [] => []
  | stmt :: more => writes stmt ++ bodyWrites more

def branchesWrites : List Branch → List String
  | [] => []
  | .mk _ body :: more => bodyWrites body ++ branchesWrites more

end

end Stmt

/-- The names a piece of code may write. -/
def Code.writes : Code → List String
  | .stmt statement => statement.writes
  | .part piece => Stmt.partWrites piece
  | .body stmts => Stmt.bodyWrites stmts
  | .branches _ arms elseBody => Stmt.branchesWrites arms ++ Stmt.bodyWrites elseBody
  | .forLoop _ step loopBody _ => Stmt.bodyWrites loopBody ++ Stmt.partWrites step
  | .whileLoop _ loopBody _ | .doWhile loopBody _ _ => Stmt.bodyWrites loopBody

namespace Store

variable {store store' store'' : Store} {name name' : String} {line : Option Nat}

theorem AgreeOn.refl : store.AgreeOn store name :=
  ⟨rfl, rfl, rfl⟩

theorem AgreeOn.symm (agree : store'.AgreeOn store name) : store.AgreeOn store' name :=
  ⟨agree.1.symm, agree.2.1.symm, agree.2.2.symm⟩

theorem AgreeOn.trans (first : store''.AgreeOn store' name) (second : store'.AgreeOn store name) :
    store''.AgreeOn store name :=
  ⟨first.1.trans second.1, first.2.1.trans second.2.1, first.2.2.trans second.2.2⟩

theorem set_agree {value : Int} (stored : store.set name value line = .ok store')
    (other : name' ≠ name) : store'.AgreeOn store name' := by
  obtain ⟨_, rfl⟩ := set_ok stored
  exact ⟨by simp [Std.HashMap.getElem?_insert, Ne.symm other], rfl, rfl⟩

theorem setElement_agree {index value : Int}
    (stored : store.setElement name index value line = .ok store') (other : name' ≠ name) :
    store'.AgreeOn store name' := by
  obtain ⟨_, _, _, rfl⟩ := setElement_ok stored
  exact ⟨rfl, by simp [Std.HashMap.getElem?_modify, Ne.symm other], rfl⟩

theorem assign_agree {target : Target} {op : AssignOp} {expr : Expr} {line : Nat}
    (assigned : store.assign target op expr line = .ok store') (other : name' ≠ target.name) :
    store'.AgreeOn store name' := by
  unfold Store.assign at assigned
  cases valued : eval store (some line) expr with
  | error error => simp [valued, bind, Except.bind] at assigned
  | ok value =>
      simp only [valued, bind, Except.bind] at assigned
      cases target with
      | var name =>
          simp only at assigned
          cases updated : op.update line (fun _ => store.get name (some line)) value with
          | error error => simp [updated] at assigned
          | ok value' =>
              simp only [updated] at assigned
              exact set_agree assigned other
      | index name position =>
          simp only at assigned
          cases placed : eval store (some line) position with
          | error error => simp [placed] at assigned
          | ok index =>
              simp only [placed] at assigned
              cases updated :
                  op.update line (fun _ => store.getElement name index (some line)) value with
              | error error => simp [updated] at assigned
              | ok value' =>
                  simp only [updated] at assigned
                  exact setElement_agree assigned other

theorem declareScalar_agree {value : Int} {reached : Bool} (other : name' ≠ name) :
    (store.declareScalar name value reached).AgreeOn store name' := by
  refine ⟨by simp [Std.HashMap.getElem?_insert, Ne.symm other],
    by simp [Std.HashMap.getElem?_erase, Ne.symm other], ?_⟩
  cases reached <;> simp [Std.HashSet.contains_insert, Std.HashSet.contains_erase, Ne.symm other]

theorem declareScalar_same {value : Int} {reached : Bool} :
    (store'.declareScalar name value reached).AgreeOn
      (store.declareScalar name value reached) name := by
  refine ⟨by simp, by simp, ?_⟩
  cases reached <;> simp

theorem declareArray_agree {values : List Int} {length : Nat} {reached : Bool}
    (other : name' ≠ name) :
    (store.declareArray name values length reached).AgreeOn store name' := by
  refine ⟨by simp [Std.HashMap.getElem?_erase, Ne.symm other],
    by simp [Std.HashMap.getElem?_insert, Ne.symm other], ?_⟩
  cases reached <;> simp [Std.HashSet.contains_insert, Std.HashSet.contains_erase, Ne.symm other]

theorem declare_agree {value : Option Expr} {line : Nat}
    (stored : store.declare name value line = .ok store') (other : name' ≠ name) :
    store'.AgreeOn store name' := by
  unfold Store.declare at stored
  cases value with
  | none =>
      cases stored
      exact declareScalar_agree other
  | some expr =>
      simp only [bind, Except.bind] at stored
      cases valued : eval store (some line) expr with
      | error error => simp [valued] at stored
      | ok initial =>
          simp only [valued] at stored
          cases stored
          exact declareScalar_agree other

theorem declare_ok {value : Option Expr} {line : Nat}
    (stored : store.declare name value line = .ok store') :
    ∃ initial, store' = store.declareScalar name initial true ∧
      (∀ expr ∈ value, eval store (some line) expr = .ok initial) ∧
      (value = none → initial = 0) := by
  unfold Store.declare at stored
  cases value with
  | none =>
      cases stored
      exact ⟨0, rfl, nofun, fun _ => rfl⟩
  | some expr =>
      obtain ⟨initial, valued, returned⟩ := bind_eq_ok stored
      cases returned
      refine ⟨initial, rfl, fun expr' mem => ?_, nofun⟩
      cases Option.mem_def.mp mem
      exact valued

end Store

theorem Machine.declare_eval_error {machine : Machine} {name : String} {value : Expr} {line : Nat}
    {error : RuntimeError} (fails : eval machine.store (some line) value = .error error) :
    machine.declare name (some value) line = .error (.runtime error) := by
  obtain ⟨store, output, printed, warnings⟩ := machine
  simp only at fails
  simp only [Machine.declare, Store.declare, fails, bind, Except.bind]

namespace Runs

variable {limits : Limits} {code : Code} {machine : Machine} {iterations : Nat} {ending : Ending}

/-- A run leaves alone every name that its code does not write. -/
theorem frame (ran : Runs limits code machine iterations ending) :
    ending.Leaves fun machine' => ∀ name, name ∉ code.writes →
      machine'.store.AgreeOn machine.store name := by
  induction ran with
  | declare declared =>
      obtain ⟨store, stored, rfl⟩ := Machine.declare_ok declared
      intro name fresh
      exact Store.declare_agree stored (by simpa [Code.writes, Stmt.writes] using fresh)
  | declareArray =>
      intro name fresh
      rw [Machine.declareArray_eq]
      exact Store.declareArray_agree (by simpa [Code.writes, Stmt.writes] using fresh)
  | assign assigned =>
      obtain ⟨store, stored, rfl⟩ := Machine.assign_ok assigned
      intro name fresh
      exact Store.assign_agree stored (by simpa [Code.writes, Stmt.writes] using fresh)
  | print printed =>
      obtain ⟨rendered, _, _, rfl⟩ := Machine.print_ok printed
      exact fun _ _ => Store.AgreeOn.refl
  | breakLoop | continueLoop | returnValue | returnNothing | partNone | bodyNil | forEnds
  | whileEnds =>
      exact fun _ _ => Store.AgreeOn.refl
  | declareFails | assignFails | printFails | returnFails | branchFails | forFails
  | forOverBudget | whileFails | whileOverBudget | doOverBudget | doFails => trivial
  | cond _ arms => exact arms
  | whileLoop _ loop | doWhile _ loop => exact loop
  | partSome _ ran | branchesElse _ ran => exact ran
  | forLoop _ _ initialized loop =>
      refine loop.mono fun _ looped name fresh => ?_
      simp only [Code.writes, Stmt.writes, List.mem_append, not_or] at fresh
      obtain ⟨⟨freshInit, freshBody⟩, freshStep⟩ := fresh
      exact (looped name (by simp [Code.writes, freshBody, freshStep])).trans
        (initialized name freshInit)
  | forInitStops _ _ initialized =>
      refine initialized.mono fun _ initDone name fresh => initDone name ?_
      simp only [Code.writes, Stmt.writes, List.mem_append, not_or] at fresh
      exact fresh.1.1
  | bodyCons _ _ first rest =>
      refine rest.mono fun _ restDone name fresh => ?_
      simp only [Code.writes, Stmt.bodyWrites, List.mem_append, not_or] at fresh
      exact (restDone name fresh.2).trans (first name fresh.1)
  | bodyStops _ _ first =>
      refine first.mono fun _ firstDone name fresh => firstDone name ?_
      simp only [Code.writes, Stmt.bodyWrites, List.mem_append, not_or] at fresh
      exact fresh.1
  | branchTaken _ _ ran =>
      refine ran.mono fun _ bodyDone name fresh => bodyDone name ?_
      simp only [Code.writes, Stmt.branchesWrites, List.mem_append, not_or] at fresh
      exact fresh.1.1
  | branchSkipped _ _ rest =>
      refine rest.mono fun _ restDone name fresh => restDone name ?_
      simp only [Code.writes, Stmt.branchesWrites, List.mem_append, not_or] at fresh ⊢
      exact ⟨fresh.1.2, fresh.2⟩
  | forExits _ _ _ exits ran | whileExits _ _ _ exits ran | doExits _ _ exits ran =>
      refine Ending.leaves_of_exit exits (ran.mono fun _ bodyDone name fresh => bodyDone name ?_)
      simp only [Code.writes, List.mem_append, not_or] at fresh
      first
        | exact fresh.1
        | exact fresh
  | forStepStops _ _ _ _ _ _ ran stepped =>
      refine stepped.mono fun _ stepDone name fresh => ?_
      simp only [Code.writes, List.mem_append, not_or] at fresh
      exact (stepDone name fresh.2).trans (ran name fresh.1)
  | forRepeats _ _ _ _ _ _ ran steppedOn loop =>
      refine loop.mono fun _ looped name fresh => ?_
      have inLoop := fresh
      simp only [Code.writes, List.mem_append, not_or] at fresh
      exact ((looped name inLoop).trans (steppedOn name fresh.2)).trans (ran name fresh.1)
  | whileRepeats _ _ _ _ _ ran loop | doRepeats _ _ _ _ _ ran loop =>
      exact loop.mono fun _ looped name fresh => (looped name fresh).trans (ran name fresh)
  | doEnds _ _ _ _ ran => exact ran

end Runs

namespace Binding

variable {topLevel : Bool} {state state' state'' : State}

theorem declare_ok {name : String} {value : Option Expr} {line : Nat}
    (bound : declare topLevel state name value line = .ok state') :
    ∃ isConstant initial,
      state' = ⟨state.store.declareScalar name initial topLevel, state.seen.insert name,
        if isConstant then state.constant.insert name else state.constant.erase name⟩ ∧
      (isConstant = true → topLevel = true ∧
        ∀ expr ∈ value, foldable state expr.references = true ∧
          eval state.store (some line) expr = .ok initial) ∧
      (value = none → initial = 0) := by
  obtain ⟨store, seen, constant⟩ := state
  cases value with
  | none =>
      cases bound
      exact ⟨topLevel, 0, rfl,
        fun constant => ⟨constant, fun expr mem => absurd mem (Option.not_mem_none expr)⟩, fun _ => rfl⟩
  | some expr =>
      simp only [declare] at bound
      obtain ⟨_, _, chosen⟩ := bind_eq_ok bound
      split at chosen
      · next folds =>
        obtain ⟨initial, valued, settled⟩ := bind_eq_ok chosen
        cases settled
        obtain ⟨top, foldable⟩ := Bool.and_eq_true_iff.mp folds
        refine ⟨true, initial, rfl, fun _ => ⟨top, fun expr' mem => ?_⟩,
          fun same => absurd same (Option.some_ne_none expr)⟩
        cases Option.mem_def.mp mem
        exact ⟨foldable, valued⟩
      · cases chosen
        exact ⟨false, 0, rfl, fun same => absurd same Bool.false_ne_true, fun _ => rfl⟩

theorem declare_fold_error {name : String} {value : Expr} {line : Nat} {error : RuntimeError}
    (usable : checkExpr state line value = .ok ())
    (folds : foldable state value.references = true)
    (fails : eval state.store (some line) value = .error error) :
    declare true state name (some value) line = .error error := by
  unfold checkExpr at usable
  simp only [declare, usable, folds, fails, Bool.true_and, if_true, bind, Except.bind]

/-- A top-level statement that declares `name` first fails to walk with the
error of that declaration. -/
theorem opening_declare_error {stmt : Stmt} {name : String} {value : Expr} {line : Nat}
    {error : RuntimeError}
    (opens : stmt = .decl name (some value) line ∨
      ∃ condition step body forLine,
        stmt = .forLoop (some (.decl name (some value) line)) condition step body forLine)
    (refused : declare true state name (some value) line = .error error) :
    bindStmt true state stmt = .error error := by
  rcases opens with rfl | ⟨condition, step, body, forLine, rfl⟩
  · exact refused
  · simp only [bindStmt, bindPart, refused, bind, Except.bind]

theorem assign_ok {target : Target} {op : AssignOp} {value : Expr} {line : Nat}
    (bound : bindStmt topLevel state (.assign target op value line) = .ok state') :
    state' = { state with constant := state.constant.erase target.name } := by
  simp only [bindStmt, bind, Except.bind] at bound
  repeat' split at bound
  all_goals cases bound
  all_goals rfl

theorem bindTop_append (state : State) (pre rest : List Stmt) :
    bindTop state (pre ++ rest) = bindTop state pre >>= fun state' => bindTop state' rest := by
  induction pre generalizing state with
  | nil => rfl
  | cons stmt more ih => simp only [List.cons_append, bindTop, ih, bind_assoc]

/-- The constants after a walk were constants before it, are none of the
names in `written`, and kept their storage. -/
def Shrinks (state state' : State) (written : List String) : Prop :=
  ∀ name, state'.constant.contains name = true →
    state.constant.contains name = true ∧ name ∉ written ∧
      state'.store.AgreeOn state.store name

namespace Shrinks

variable {written written' : List String}

theorem refl : Shrinks state state [] :=
  fun _ constant => ⟨constant, List.not_mem_nil, Store.AgreeOn.refl⟩

theorem trans (first : Shrinks state state' written) (second : Shrinks state' state'' written') :
    Shrinks state state'' (written ++ written') := by
  intro name constant
  obtain ⟨constant', notLater, agreeLater⟩ := second name constant
  obtain ⟨constantBefore, notEarlier, agreeEarlier⟩ := first name constant'
  exact ⟨constantBefore, by simp [notEarlier, notLater], agreeLater.trans agreeEarlier⟩

theorem of_erase {name : String} (dropped : state'.constant = state.constant.erase name)
    (others : ∀ name', name' ≠ name → state'.store.AgreeOn state.store name') :
    Shrinks state state' [name] := by
  intro name' constant
  rw [dropped, Std.HashSet.contains_erase, Bool.and_eq_true] at constant
  have other : name' ≠ name := fun same => by simp [same] at constant
  exact ⟨constant.2, by simpa using other, others name' other⟩

end Shrinks

/-- Nested walks drop every name they write from the constants and add
none: a declaration below the top level never folds. -/
theorem nested_shrinks :
    (∀ topLevel state stmt state', bindStmt topLevel state stmt = .ok state' →
      topLevel = false → Shrinks state state' stmt.writes) ∧
    (∀ topLevel state part state', bindPart topLevel state part = .ok state' →
      topLevel = false → Shrinks state state' (Stmt.partWrites part)) ∧
    (∀ state body state', bindBody state body = .ok state' →
      Shrinks state state' (Stmt.bodyWrites body)) ∧
    (∀ line state branches state', bindBranches line state branches = .ok state' →
      Shrinks state state' (Stmt.branchesWrites branches)) := by
  apply bindStmt.mutual_induct
    (fun topLevel state stmt => ∀ state', bindStmt topLevel state stmt = .ok state' →
      topLevel = false → Shrinks state state' stmt.writes)
    (fun topLevel state part => ∀ state', bindPart topLevel state part = .ok state' →
      topLevel = false → Shrinks state state' (Stmt.partWrites part))
    (fun state body => ∀ state', bindBody state body = .ok state' →
      Shrinks state state' (Stmt.bodyWrites body))
    (fun line state branches => ∀ state', bindBranches line state branches = .ok state' →
      Shrinks state state' (Stmt.branchesWrites branches))
  · intro topLevel state name value line state' bound nested
    obtain ⟨isConstant, initial, rfl, constantFacts, _⟩ := declare_ok bound
    cases isConstant with
    | true => exact absurd (constantFacts rfl).1 (by simp [nested])
    | false => exact Shrinks.of_erase rfl fun _ other => Store.declareScalar_agree other
  · intro topLevel name size values line store seen constant state' bound _
    cases bound
    exact Shrinks.of_erase rfl fun _ other => Store.declareArray_agree other
  · intro topLevel state target op value line state' bound _
    cases assign_ok bound
    exact Shrinks.of_erase rfl fun _ _ => Store.AgreeOn.refl
  · intro topLevel state branches elseBody line armsShrink elseShrink state' bound _
    obtain ⟨armsState, armsBound, elseBound⟩ := bind_eq_ok bound
    exact (armsShrink armsState armsBound).trans (elseShrink armsState state' elseBound)
  · intro topLevel state init condition step body line initShrink bodyShrink stepShrink state'
      bound nested
    obtain ⟨initState, bodyState, initBound, bodyBound, stepBound⟩ := forLoop_bound bound
    exact ((initShrink initState initBound nested).trans
      (bodyShrink initState bodyState bodyBound)).trans (stepShrink bodyState state' stepBound rfl)
  · intro topLevel state condition body line bodyShrink state' bound _
    exact bodyShrink state' (whileLoop_bound bound)
  · intro topLevel state body condition line bodyShrink state' bound _
    exact bodyShrink state' (doWhile_bound bound)
  · intro topLevel state format args line state' bound _
    cases print_bound bound
    exact Shrinks.refl
  · intro topLevel state line value state' bound _
    cases ret_bound bound
    exact Shrinks.refl
  · intro topLevel state line state' bound _
    cases bound
    exact Shrinks.refl
  · intro topLevel state line state' bound _
    cases bound
    exact Shrinks.refl
  · intro topLevel state line state' bound _
    cases bound
    exact Shrinks.refl
  · intro line state state' bound
    cases bound
    exact Shrinks.refl
  · intro line state condition body more bodyShrink moreShrink state' bound
    obtain ⟨_, _, afterCondition⟩ := bind_eq_ok bound
    obtain ⟨bodyState, bodyBound, moreBound⟩ := bind_eq_ok afterCondition
    exact (bodyShrink bodyState bodyBound).trans (moreShrink bodyState state' moreBound)
  · intro state state' bound
    cases bound
    exact Shrinks.refl
  · intro state stmt more stmtShrink moreShrink state' bound
    obtain ⟨stmtState, stmtBound, moreBound⟩ := bind_eq_ok bound
    exact (stmtShrink stmtState stmtBound rfl).trans (moreShrink stmtState state' moreBound)
  · intro topLevel state stmt stmtShrink state' bound nested
    exact stmtShrink state' bound nested
  · intro topLevel state state' bound _
    cases bound
    exact Shrinks.refl

/-- Every constant of the walk holds in `machine` what the walk stored for
it. -/
def State.Matches (state : State) (machine : Machine) : Prop :=
  ∀ name, state.constant.contains name = true → machine.store.AgreeOn state.store name

namespace State.Matches

variable {machine machine' : Machine} {written : List String}

theorem start : (({} : State)).Matches machine := by
  intro name constant
  simp at constant

/-- A walk that drops constants and a run that writes only what the walk
dropped keep the match. -/
theorem frame (fits : state.Matches machine) (shrinks : Shrinks state state' written)
    (kept : ∀ name, name ∉ written → machine'.store.AgreeOn machine.store name) :
    state'.Matches machine' := by
  intro name constant
  obtain ⟨constantBefore, notWritten, walkAgrees⟩ := shrinks name constant
  exact ((kept name notWritten).trans (fits name constantBefore)).trans walkAgrees.symm

theorem shrink (fits : state.Matches machine) (shrinks : Shrinks state state' written) :
    state'.Matches machine :=
  fits.frame shrinks fun _ _ => Store.AgreeOn.refl

/-- An initializer that reads only constants has the value the walk gave it. -/
theorem eval_eq (fits : state.Matches machine) {expr : Expr} {line : Option Nat}
    (folds : foldable state expr.references = true) :
    eval machine.store line expr = eval state.store line expr := by
  apply eval_congr
  intro name mem
  obtain ⟨⟨_, asArray⟩, listed, rfl⟩ := List.mem_map.mp mem
  have read := List.all_eq_true.mp folds _ listed
  simp only [Bool.and_eq_true, Bool.not_eq_true'] at read
  exact fits _ read.2

theorem declare (fits : state.Matches machine) {name : String} {value : Option Expr} {line : Nat}
    (bound : Binding.declare true state name value line = .ok state')
    (declared : machine.declare name value line = .ok machine') :
    state'.Matches machine' := by
  obtain ⟨isConstant, initial, rfl, constantFacts, noValue⟩ := declare_ok bound
  obtain ⟨store, stored, rfl⟩ := Machine.declare_ok declared
  obtain ⟨initial', rfl, valued, noValue'⟩ := Store.declare_ok stored
  intro name' constant
  by_cases same : name' = name
  · subst same
    cases isConstant with
    | false => simp at constant
    | true =>
        have sameInitial : initial' = initial := by
          cases value with
          | none => rw [noValue rfl, noValue' rfl]
          | some expr =>
              obtain ⟨folds, folded⟩ := (constantFacts rfl).2 expr rfl
              have evaluated := valued expr rfl
              rw [fits.eval_eq folds, folded] at evaluated
              exact (Except.ok.inj evaluated).symm
        rw [sameInitial]
        exact Store.declareScalar_same
  · have other : (name == name') = false := beq_eq_false_iff_ne.mpr (Ne.symm same)
    have before : state.constant.contains name' = true := by
      cases isConstant <;>
        simpa [Std.HashSet.contains_insert, Std.HashSet.contains_erase, other] using constant
    exact ((Store.declareScalar_agree same).trans (fits name' before)).trans
      (Store.declareScalar_agree same).symm

end State.Matches

theorem forLoop_ok {init : Option Stmt} {condition : Option Expr} {step : Option Stmt}
    {body : List Stmt} {line : Nat}
    (bound : bindStmt topLevel state (.forLoop init condition step body line) = .ok state') :
    ∃ initState, bindPart topLevel state init = .ok initState ∧
      Shrinks initState state' (Stmt.bodyWrites body ++ Stmt.partWrites step) := by
  obtain ⟨initState, bodyState, initBound, bodyBound, stepBound⟩ := forLoop_bound bound
  exact ⟨initState, initBound, (nested_shrinks.2.2.1 initState body bodyState bodyBound).trans
    (nested_shrinks.2.1 false bodyState step state' stepBound rfl)⟩

/-- What a run of top-level code keeps: a statement, or the initializer of
a `for`, that the walk takes from `state` to `state'` and that runs from a
machine matching `state` leaves a machine matching `state'`. -/
def TopLevelKeeps (code : Code) (machine : Machine) (ending : Ending) : Prop :=
  match code with
  | .stmt statement => ∀ state state', bindStmt true state statement = .ok state' →
      state.Matches machine → ending.Leaves state'.Matches
  | .part piece => ∀ state state', bindPart true state piece = .ok state' →
      state.Matches machine → ending.Leaves state'.Matches
  | _ => True

end Binding

namespace Runs

open Binding

variable {limits : Limits} {code : Code} {machine : Machine} {iterations : Nat} {ending : Ending}

/-- A top-level statement keeps every constant of the walk matched: a
declaration that folds runs the same initializer on agreeing names, and
nested code writes only names the walk dropped. -/
theorem topLevelKeeps (ran : Runs limits code machine iterations ending) :
    TopLevelKeeps code machine ending := by
  induction ran with
  | declare declared =>
      intro state state' bound fits
      exact fits.declare bound declared
  | declareArray =>
      intro state state' bound fits
      obtain ⟨store, seen, constant⟩ := state
      cases bound
      refine fits.frame (Shrinks.of_erase rfl fun _ other => Store.declareArray_agree other)
        fun _ other => ?_
      rw [Machine.declareArray_eq]
      exact Store.declareArray_agree (by simpa using other)
  | assign assigned =>
      intro state state' bound fits
      cases assign_ok bound
      obtain ⟨store, stored, rfl⟩ := Machine.assign_ok assigned
      exact fits.frame (Shrinks.of_erase rfl fun _ _ => Store.AgreeOn.refl)
        fun _ other => Store.assign_agree stored (by simpa using other)
  | print printed =>
      intro state state' bound fits
      cases print_bound bound
      obtain ⟨rendered, _, _, rfl⟩ := Machine.print_ok printed
      exact fits
  | returnValue =>
      intro state state' bound fits
      cases ret_bound bound
      exact fits
  | breakLoop | continueLoop | returnNothing | partNone =>
      intro state state' bound fits
      cases bound
      exact fits
  | declareFails | assignFails | printFails | returnFails => exact fun _ _ _ _ => trivial
  | cond arms =>
      intro state state' bound fits
      obtain ⟨armsState, armsBound, elseBound⟩ := bind_eq_ok bound
      have shrinks := (nested_shrinks.2.2.2 _ state _ armsState armsBound).trans
        (nested_shrinks.2.2.1 armsState _ state' elseBound)
      exact arms.frame.mono fun _ kept => fits.frame shrinks kept
  | forLoop _ loop initKeeps =>
      intro state state' bound fits
      obtain ⟨initState, initBound, shrinks⟩ := forLoop_ok bound
      have initFits : initState.Matches _ := initKeeps state initState initBound fits
      exact loop.frame.mono fun _ kept => initFits.frame shrinks kept
  | forInitStops _ _ initKeeps =>
      intro state state' bound fits
      obtain ⟨initState, initBound, shrinks⟩ := forLoop_ok bound
      exact (initKeeps state initState initBound fits).mono fun _ initFits =>
        initFits.shrink shrinks
  | whileLoop loop =>
      intro state state' bound fits
      have shrinks := nested_shrinks.2.2.1 state _ state' (whileLoop_bound bound)
      exact loop.frame.mono fun _ kept => fits.frame shrinks kept
  | doWhile loop =>
      intro state state' bound fits
      have shrinks := nested_shrinks.2.2.1 state _ state' (doWhile_bound bound)
      exact loop.frame.mono fun _ kept => fits.frame shrinks kept
  | partSome _ stmtKeeps => exact stmtKeeps
  | bodyNil | bodyCons | bodyStops | branchesElse | branchTaken | branchSkipped | branchFails
  | forFails | forEnds | forOverBudget | forExits | forStepStops | forRepeats | whileFails
  | whileEnds | whileOverBudget | whileExits | whileRepeats | doOverBudget | doExits | doFails
  | doEnds | doRepeats => trivial

theorem body_append {pre rest : List Stmt} {machine machine' : Machine} {iterations after : Nat}
    (first : Runs limits (.body pre) machine iterations (.done machine' after .next))
    (second : Runs limits (.body rest) machine' after ending) :
    Runs limits (.body (pre ++ rest)) machine iterations ending := by
  induction pre generalizing machine iterations with
  | nil =>
      cases first
      exact second
  | cons stmt more ih =>
      cases first with
      | bodyCons head tail => exact .bodyCons head (ih tail)
      | bodyStops _ stops => cases stops

/-- A run that gets through a top-level prefix of the program leaves every
constant the walk of that prefix folded holding its folded value. -/
theorem bindTop_matches {pre : List Stmt} {state state' : State} {machine machine' : Machine}
    {iterations after : Nat}
    (ran : Runs limits (.body pre) machine iterations (.done machine' after .next))
    (bound : bindTop state pre = .ok state') (fits : state.Matches machine) :
    state'.Matches machine' := by
  induction pre generalizing state machine iterations with
  | nil =>
      cases ran
      cases bound
      exact fits
  | cons stmt more ih =>
      obtain ⟨stmtState, stmtBound, moreBound⟩ := bind_eq_ok bound
      cases ran with
      | bodyCons first rest =>
          exact ih rest moreBound (first.topLevelKeeps state stmtState stmtBound fits)
      | bodyStops _ stops => cases stops

/-- A statement that declares `name` first stops where that declaration is
refused. -/
theorem opening_declare_fails {stmt : Stmt} {name : String} {value : Expr} {line : Nat}
    {machine : Machine} {iterations : Nat} {failure : Failure}
    (opens : stmt = .decl name (some value) line ∨
      ∃ condition step body forLine,
        stmt = .forLoop (some (.decl name (some value) line)) condition step body forLine)
    (raised : machine.declare name (some value) line = .error failure) :
    Runs limits (.stmt stmt) machine iterations (.failed failure iterations) := by
  rcases opens with rfl | ⟨condition, step, body, forLine, rfl⟩
  · exact .declareFails raised
  · exact .forInitStops (.partSome (.declareFails raised)) rfl

end Runs

/-- When the walk cannot fold the initializer of a top-level declaration,
preparing the program fails with the evaluation's error, and that is the
error every run that gets to the declaration stops with, from whatever
machine it starts: the binder raises early only what the run raises at the
declaration. The declaration comes after the top-level statements `pre`, as
a statement of its own or as the initializer of a `for` loop. A run that
never gets there, because it returns or fails earlier, is still refused. -/
theorem folding_error_is_run_error {program : Program} {pre post : List Stmt} {stmt : Stmt}
    {name : String} {value : Expr} {line : Nat} {state : Binding.State} {error : RuntimeError}
    (split : program.body = pre ++ stmt :: post)
    (opens : stmt = .decl name (some value) line ∨
      ∃ condition step body forLine,
        stmt = .forLoop (some (.decl name (some value) line)) condition step body forLine)
    (boundBefore : Binding.bindTop {} pre = .ok state)
    (usable : Binding.checkExpr state line value = .ok ())
    (folds : Binding.foldable state value.references = true)
    (fails : eval state.store (some line) value = .error error) :
    program.bind = .error error ∧
      ∀ limits machine iterations machine' after,
        Runs limits (.body pre) machine iterations (.done machine' after .next) →
        Runs limits (.body program.body) machine iterations (.failed (.runtime error) after) := by
  constructor
  · have refused : Binding.bindStmt true state stmt = .error error :=
      Binding.opening_declare_error opens (Binding.declare_fold_error usable folds fails)
    simp only [Program.bind, split, Binding.bindTop_append, boundBefore, Binding.bindTop, refused,
      bind, Except.bind]
  · intro limits machine iterations machine' after reached
    have fits := reached.bindTop_matches boundBefore Binding.State.Matches.start
    have raised : machine'.declare name (some value) line = .error (.runtime error) := by
      apply Machine.declare_eval_error
      rw [fits.eval_eq folds, fails]
    rw [split]
    exact reached.body_append (.bodyStops (Runs.opening_declare_fails opens raised) rfl)

theorem folding_error_is_run_error_after_return :
    Binding.bindTop {} [.ret (some (.int 0)) 3] = .ok {} ∧
      Binding.checkExpr {} 4 (.binary .div (.int 1) (.int 0)) = .ok () ∧
      Binding.foldable {} (Expr.binary .div (.int 1) (.int 0)).references = true ∧
      eval ({} : Binding.State).store (some 4) (.binary .div (.int 1) (.int 0)) =
        .error ⟨.divisionByZero, some 4⟩ ∧
      (⟨["stdio.h"], [.ret (some (.int 0)) 3,
          .decl "x" (some (.binary .div (.int 1) (.int 0))) 4]⟩ : Program).bind =
        .error ⟨.divisionByZero, some 4⟩ ∧
      ∀ limits machine iterations machine' after,
        Runs limits (.body [.ret (some (.int 0)) 3]) machine iterations
          (.done machine' after .next) →
        Runs limits (.body [.ret (some (.int 0)) 3,
            .decl "x" (some (.binary .div (.int 1) (.int 0))) 4]) machine iterations
          (.failed (.runtime ⟨.divisionByZero, some 4⟩) after) :=
  ⟨rfl, rfl, rfl, rfl, @folding_error_is_run_error
    ⟨["stdio.h"], [.ret (some (.int 0)) 3, .decl "x" (some (.binary .div (.int 1) (.int 0))) 4]⟩
    [.ret (some (.int 0)) 3] [] (.decl "x" (some (.binary .div (.int 1) (.int 0))) 4) "x"
    (.binary .div (.int 1) (.int 0)) 4 {} ⟨.divisionByZero, some 4⟩ rfl (.inl rfl) rfl rfl rfl rfl⟩

theorem Machine.declare_eval_ok {machine : Machine} {name : String} {value : Expr} {line : Nat}
    {result : Int} (valued : eval machine.store (some line) value = .ok result) :
    machine.declare name (some value) line =
      .ok { machine with store := machine.store.declareScalar name result true } := by
  obtain ⟨store, output, printed, warnings⟩ := machine
  simp only at valued
  simp only [Machine.declare, Store.declare, valued, bind, Except.bind, pure, Except.pure]

namespace Binding

variable {state state' : State}

/-- A declaration that the walk folds stores the value of its initializer,
which the walk evaluated. -/
theorem declare_folds {name : String} {value : Expr} {line : Nat}
    (bound : declare true state name (some value) line = .ok state')
    (folds : foldable state value.references = true) :
    ∃ folded, eval state.store (some line) value = .ok folded ∧
      state'.store = state.store.declareScalar name folded true := by
  obtain ⟨store, seen, constant⟩ := state
  simp only [declare] at bound
  obtain ⟨_, _, chosen⟩ := bind_eq_ok bound
  rw [if_pos (by rw [folds]; rfl)] at chosen
  obtain ⟨folded, valued, settled⟩ := bind_eq_ok chosen
  cases settled
  exact ⟨folded, valued, rfl⟩

/-- A top-level statement walked from `state` that declares `name` first,
as a declaration of its own or as the initializer of a `for`, has that
declaration walked from `state` too. -/
theorem opening_declare {stmt : Stmt} {name : String} {value : Expr} {line : Nat}
    (opens : stmt = .decl name (some value) line ∨
      ∃ condition step body forLine,
        stmt = .forLoop (some (.decl name (some value) line)) condition step body forLine)
    (bound : bindStmt true state stmt = .ok state') :
    ∃ state'', declare true state name (some value) line = .ok state'' := by
  rcases opens with rfl | ⟨condition, step, body, forLine, rfl⟩
  · exact ⟨state', bound⟩
  · obtain ⟨initState, initBound, _⟩ := forLoop_ok bound
    exact ⟨initState, initBound⟩

end Binding

/-- Folding is sound: when the binder folds the initializer of a top-level
declaration of an accepted program, every run that gets to the declaration,
from whatever machine it starts, stores the value the binder computed. The
declaration comes after the top-level statements `pre`, as a statement of
its own or as the initializer of a `for` loop. -/
theorem folded_value_is_run_value {program : Program} {store : Store} {pre post : List Stmt}
    {stmt : Stmt} {name : String} {value : Expr} {line : Nat} {state : Binding.State}
    (accepted : program.bind = .ok store)
    (split : program.body = pre ++ stmt :: post)
    (opens : stmt = .decl name (some value) line ∨
      ∃ condition step body forLine,
        stmt = .forLoop (some (.decl name (some value) line)) condition step body forLine)
    (boundBefore : Binding.bindTop {} pre = .ok state)
    (folds : Binding.foldable state value.references = true) :
    ∃ folded, eval state.store (some line) value = .ok folded ∧
      ∀ limits machine iterations machine' after,
        Runs limits (.body pre) machine iterations (.done machine' after .next) →
        machine'.declare name (some value) line =
          .ok { machine' with store := machine'.store.declareScalar name folded true } := by
  -- the walk of the whole program gets through the declaration
  obtain ⟨walked, walkedAll, _⟩ := bind_eq_ok accepted
  rw [split, Binding.bindTop_append, boundBefore] at walkedAll
  have walkedRest : Binding.bindTop state (stmt :: post) = .ok walked := walkedAll
  obtain ⟨stmtState, stmtBound, _⟩ := bind_eq_ok walkedRest
  obtain ⟨declState, declBound⟩ := Binding.opening_declare opens stmtBound
  obtain ⟨folded, valued, _⟩ := Binding.declare_folds declBound folds
  refine ⟨folded, valued, fun limits machine iterations machine' after reached => ?_⟩
  have fits := reached.bindTop_matches boundBefore Binding.State.Matches.start
  apply Machine.declare_eval_ok
  rw [fits.eval_eq folds, valued]

theorem folded_value_is_run_value_product :
    let xDecl := Stmt.decl "x" (some (.int 2)) 2
    let product := Expr.binary .mul (.var "x") (.int 3)
    let state : Binding.State := ⟨Store.empty.declareScalar "x" 2 true,
      ({} : Std.HashSet String).insert "x", ({} : Std.HashSet String).insert "x"⟩
    (⟨["stdio.h"], [xDecl, .decl "y" (some product) 4]⟩ : Program).bind =
        .ok ((Store.empty.declareScalar "x" 2 true).declareScalar "y" 6 true) ∧
      Binding.bindTop {} [xDecl] = .ok state ∧
      Binding.foldable state product.references = true ∧
      ∃ folded, eval state.store (some 4) product = .ok folded ∧
        ∀ limits machine iterations machine' after,
          Runs limits (.body [xDecl]) machine iterations (.done machine' after .next) →
          machine'.declare "y" (some product) 4 =
            .ok { machine' with store := machine'.store.declareScalar "y" folded true } := by
  intro xDecl product state
  have accepted : (⟨["stdio.h"], [xDecl, .decl "y" (some product) 4]⟩ : Program).bind =
      .ok ((Store.empty.declareScalar "x" 2 true).declareScalar "y" 6 true) := by
    simp [xDecl, product, Program.bind, Binding.bindTop, Binding.bindStmt, Binding.declare,
      Binding.foldable, Binding.checkName, Expr.references, Store.isArray, Store.declareScalar,
      Store.mark, eval, Store.empty, bind, Except.bind, pure, Except.pure, Store.get_eq,
      Store.checkDeclared, Eval.applyBinary]
    rfl
  have boundBefore : Binding.bindTop {} [xDecl] = .ok state := rfl
  have folds : Binding.foldable state product.references = true := by
    simp [Binding.foldable, product, state, Expr.references]
  have split : [xDecl, .decl "y" (some product) 4] = [xDecl] ++ .decl "y" (some product) 4 :: [] :=
    rfl
  exact ⟨accepted, boundBefore, folds,
    folded_value_is_run_value accepted split (.inl rfl) boundBefore folds⟩

end ClassroomC
