import ClassroomC.Proofs.Frame
import ClassroomC.Proofs.Steps
import ClassroomC.Proofs.Runs

/-!
# Declarations that have not run

Before a program runs, the store is prepared: every declaration gets
storage, and those at the top level are marked declared at once. A read or
write of a name succeeds only if the name is marked. A mark set in advance
stands for a declaration that has not run yet, so the question is whether
a run ever leans on one.

We compare the run from the prepared store with the run from the same store
with every mark removed, where a name is marked exactly when one of its
declarations has run. The two runs take the same steps when no name that
the program declares at the top level is read before a declaration of it
has surely run (`Stmt.freeNames`): then every access that succeeds in one
succeeds in the other, with the same value.
-/

namespace ClassroomC

/-- The names a target reads or writes. -/
def Target.names : Target → List String
  | .var name => [name]
  | .index name position => name :: position.names

namespace Stmt

/-- The names a statement has declared whenever control goes on past it:
the name of a declaration, and what the initializer of a `for` declares. -/
def declares : Stmt → List String
  | .decl name _ _ | .arrayDecl name _ _ _ => [name]
  | .forLoop (some init) _ _ _ _ => init.declares
  | _ => []

/-- What the initializer or step of a `for` declares, if there is one. -/
def partDeclares : Option Stmt → List String
  | some stmt => stmt.declares
  | none => []

mutual

/-- The names a statement may read or write before a declaration of them
that it runs itself. -/
def freeNames : Stmt → List String
  | .decl _ (some value) _ => value.names
  | .decl _ none _ | .arrayDecl .. | .breakLoop _ | .continueLoop _ | .ret none _ => []
  | .assign target _ value _ => value.names ++ target.names
  | .cond branches elseBody _ => branchesFreeNames branches ++ bodyFreeNames elseBody
  | .forLoop init condition step body _ =>
    partFreeNames init ++
      (((condition.map Expr.names).getD [] ++ bodyFreeNames body ++ partFreeNames step).filter
        fun name => name ∉ partDeclares init)
  | .whileLoop condition body _ => condition.names ++ bodyFreeNames body
  | .doWhile body condition _ => bodyFreeNames body ++ condition.names
  | .print _ args _ => args.flatMap Expr.names
  | .ret (some value) _ => value.names

/-- The free names of the initializer or step of a `for`. -/
def partFreeNames : Option Stmt → List String
  | some stmt => freeNames stmt
  | none => []

/-- The free names of a body: a name that one statement surely declares is
not free in the statements after it. -/
def bodyFreeNames : List Stmt → List String
  | [] => []
  | stmt :: more => freeNames stmt ++ (bodyFreeNames more).filter fun name => name ∉ stmt.declares

/-- The free names of the arms of an `if` chain. -/
def branchesFreeNames : List Branch → List String
  | [] => []
  | .mk condition body :: more => condition.names ++ bodyFreeNames body ++ branchesFreeNames more

end

end Stmt

/-- The free names of each piece of code the executor runs. -/
def Code.freeNames : Code → List String
  | .stmt statement => statement.freeNames
  | .part piece => Stmt.partFreeNames piece
  | .body stmts => Stmt.bodyFreeNames stmts
  | .branches _ arms elseBody => Stmt.branchesFreeNames arms ++ Stmt.bodyFreeNames elseBody
  | .forLoop condition step loopBody _ =>
    (condition.map Expr.names).getD [] ++ Stmt.bodyFreeNames loopBody ++ Stmt.partFreeNames step
  | .whileLoop condition loopBody _ => condition.names ++ Stmt.bodyFreeNames loopBody
  | .doWhile loopBody condition _ => Stmt.bodyFreeNames loopBody ++ condition.names

namespace Code

variable {condition : Expr} {body : List Stmt} {line : Nat}

theorem forLoop_body_sub {condition : Option Expr} {step : Option Stmt} :
    Stmt.bodyFreeNames body ⊆ (Code.forLoop condition step body line).freeNames :=
  fun _ mem => by simp [Code.freeNames, mem]

theorem forLoop_step_sub {condition : Option Expr} {step : Option Stmt} :
    Stmt.partFreeNames step ⊆ (Code.forLoop condition step body line).freeNames :=
  fun _ mem => by simp [Code.freeNames, mem]

theorem whileLoop_condition_sub :
    condition.names ⊆ (Code.whileLoop condition body line).freeNames :=
  fun _ mem => by simp [Code.freeNames, mem]

theorem whileLoop_body_sub : Stmt.bodyFreeNames body ⊆ (Code.whileLoop condition body line).freeNames :=
  fun _ mem => by simp [Code.freeNames, mem]

theorem doWhile_condition_sub : condition.names ⊆ (Code.doWhile body condition line).freeNames :=
  fun _ mem => by simp [Code.freeNames, mem]

theorem doWhile_body_sub : Stmt.bodyFreeNames body ⊆ (Code.doWhile body condition line).freeNames :=
  fun _ mem => by simp [Code.freeNames, mem]

variable {more : List Branch} {elseBody : List Stmt}

theorem branch_condition_sub :
    condition.names ⊆ (Code.branches line (.mk condition body :: more) elseBody).freeNames :=
  fun _ mem => by simp [Code.freeNames, Stmt.branchesFreeNames, mem]

theorem branch_body_sub :
    Stmt.bodyFreeNames body ⊆ (Code.branches line (.mk condition body :: more) elseBody).freeNames :=
  fun _ mem => by simp [Code.freeNames, Stmt.branchesFreeNames, mem]

theorem branch_rest_sub :
    (Code.branches line more elseBody).freeNames ⊆
      (Code.branches line (.mk condition body :: more) elseBody).freeNames := by
  intro name mem
  simp only [Code.freeNames, Stmt.branchesFreeNames, List.mem_append] at mem ⊢
  rcases mem with inArms | inElse
  · exact .inl (.inr inArms)
  · exact .inr inElse

end Code

/-- What the piece of code has declared whenever control goes on past it. -/
def Code.declares : Code → List String
  | .stmt statement => statement.declares
  | .part piece => Stmt.partDeclares piece
  | _ => []

namespace Store

variable {store store' : Store} {declared : Std.HashSet String} {name : String}
  {line : Option Nat}

theorem agreeOn_remark (agree : declared.contains name = store.declared.contains name) :
    ({ store with declared } : Store).AgreeOn store name :=
  ⟨rfl, rfl, agree⟩

theorem set_remark (agree : declared.contains name = store.declared.contains name) (value : Int) :
    ({ store with declared } : Store).set name value line =
      (store.set name value line).map fun stored => { stored with declared } := by
  rw [Store.set_eq, Store.set_eq, (agreeOn_remark agree).checkDeclared]
  cases store.checkDeclared name line with
  | error error => rfl
  | ok passed =>
      dsimp only [bind, Except.bind]
      split <;> rfl

theorem setElement_remark (agree : declared.contains name = store.declared.contains name)
    (index value : Int) :
    ({ store with declared } : Store).setElement name index value line =
      (store.setElement name index value line).map fun stored => { stored with declared } := by
  rw [Store.setElement_eq, Store.setElement_eq, (agreeOn_remark agree).arrayOf]
  cases store.arrayOf name line with
  | error error => rfl
  | ok values =>
      simp only [bind, Except.bind]
      cases Store.position name index values.size line <;> rfl

theorem eval_remark {expr : Expr}
    (agree : ∀ name ∈ expr.names, declared.contains name = store.declared.contains name) :
    eval { store with declared } line expr = eval store line expr :=
  eval_congr expr fun name mem => agreeOn_remark (agree name mem)

theorem holds_remark {expr : Expr}
    (agree : ∀ name ∈ expr.names, declared.contains name = store.declared.contains name) :
    holds { store with declared } line expr = holds store line expr := by
  unfold holds
  rw [eval_remark agree]

variable {target : Target} {op : AssignOp} {expr : Expr}

theorem assign_remark {line : Nat}
    (agree : ∀ name ∈ expr.names ++ target.names,
      declared.contains name = store.declared.contains name) :
    ({ store with declared } : Store).assign target op expr line =
      (store.assign target op expr line).map fun stored => { stored with declared } := by
  have valueSame : eval { store with declared } (some line) expr = eval store (some line) expr :=
    eval_remark fun name mem => agree name (List.mem_append_left _ mem)
  unfold Store.assign
  rw [valueSame]
  cases eval store (some line) expr with
  | error error => rfl
  | ok value =>
      simp only [bind, Except.bind]
      cases target with
      | var name =>
          simp only
          have agreeName : declared.contains name = store.declared.contains name :=
            agree name (by simp [Target.names])
          rw [(agreeOn_remark agreeName).get]
          cases op.update line (fun _ => store.get name (some line)) value with
          | error error => rfl
          | ok value' => exact set_remark agreeName value'
      | index name position =>
          have agreeName : declared.contains name = store.declared.contains name :=
            agree name (by simp [Target.names])
          have positionSame :
              eval { store with declared } (some line) position = eval store (some line) position :=
            eval_remark fun name' mem => agree name' (by simp [Target.names, mem])
          simp only [positionSame]
          cases eval store (some line) position with
          | error error => rfl
          | ok index =>
              simp only
              rw [(agreeOn_remark agreeName).getElement]
              cases op.update line (fun _ => store.getElement name index (some line)) value with
              | error error => rfl
              | ok value' => exact setElement_remark agreeName index value'

theorem declare_remark {value : Option Expr} {line : Nat}
    (agree : ∀ expr ∈ value, ∀ name ∈ expr.names,
      declared.contains name = store.declared.contains name) :
    ({ store with declared } : Store).declare name value line =
      (store.declare name value line).map fun stored =>
        { stored with declared := declared.insert name } := by
  obtain ⟨scalars, arrays, marks⟩ := store
  cases value with
  | none => rfl
  | some expr =>
      unfold Store.declare
      simp only
      rw [eval_remark (agree expr rfl)]
      cases eval ⟨scalars, arrays, marks⟩ (some line) expr <;> rfl

theorem set_declared {value : Int} (stored : store.set name value line = .ok store') :
    store'.declared = store.declared := by
  obtain ⟨_, rfl⟩ := set_ok stored
  rfl

theorem setElement_declared {index value : Int}
    (stored : store.setElement name index value line = .ok store') :
    store'.declared = store.declared := by
  obtain ⟨_, _, _, rfl⟩ := setElement_ok stored
  rfl

theorem assign_declared {line : Nat} (assigned : store.assign target op expr line = .ok store') :
    store'.declared = store.declared := by
  unfold Store.assign at assigned
  cases valued : eval store (some line) expr with
  | error error => simp [valued, bind, Except.bind] at assigned
  | ok value =>
      simp only [valued, bind, Except.bind] at assigned
      cases target with
      | var name =>
          simp only at assigned
          cases updated : op.update line (fun _ => store.get name (some line)) value with
          | error error => simp [updated] at assigned
          | ok value' =>
              simp only [updated] at assigned
              exact set_declared assigned
      | index name position =>
          simp only at assigned
          cases placed : eval store (some line) position with
          | error error => simp [placed] at assigned
          | ok index =>
              simp only [placed] at assigned
              cases updated : op.update line (fun _ => store.getElement name index (some line)) value with
              | error error => simp [updated] at assigned
              | ok value' =>
                  simp only [updated] at assigned
                  exact setElement_declared assigned

theorem declare_declared {value : Option Expr} {line : Nat}
    (stored : store.declare name value line = .ok store') :
    store'.declared = store.declared.insert name := by
  obtain ⟨scalars, arrays, marks⟩ := store
  unfold Store.declare at stored
  cases value with
  | none =>
      cases stored
      rfl
  | some expr =>
      simp only [bind, Except.bind] at stored
      cases valued : eval ⟨scalars, arrays, marks⟩ (some line) expr with
      | error error => simp [valued] at stored
      | ok initial =>
          simp only [valued] at stored
          cases stored
          rfl

theorem declareArray_reached_declared (values : List Int) (length : Nat) :
    (store.declareArray name values length true).declared = store.declared.insert name :=
  rfl

end Store

namespace Machine

/-- `machine` with the marks `declared` in place of its own. -/
def remark (machine : Machine) (declared : Std.HashSet String) : Machine :=
  { machine with store := { machine.store with declared } }

variable {machine : Machine} {declared : Std.HashSet String} {name : String} {line : Nat}

theorem declare_remark {value : Option Expr}
    (agree : ∀ expr ∈ value, ∀ name ∈ expr.names,
      declared.contains name = machine.store.declared.contains name) :
    (machine.remark declared).declare name value line =
      (machine.declare name value line).map (·.remark (declared.insert name)) := by
  obtain ⟨store, output, printed, warnings⟩ := machine
  unfold Machine.declare Machine.remark
  simp only
  rw [Store.declare_remark agree]
  cases store.declare name value line <;> rfl

theorem assign_remark {target : Target} {op : AssignOp} {expr : Expr}
    (agree : ∀ name ∈ expr.names ++ target.names,
      declared.contains name = machine.store.declared.contains name) :
    (machine.remark declared).assign target op expr line =
      (machine.assign target op expr line).map (·.remark declared) := by
  obtain ⟨store, output, printed, warnings⟩ := machine
  unfold Machine.assign Machine.remark
  simp only
  rw [Store.assign_remark agree]
  cases store.assign target op expr line <;> rfl

theorem print_remark {limit : Nat} {format : String} {args : List Expr}
    (agree : ∀ arg ∈ args, ∀ name ∈ arg.names,
      declared.contains name = machine.store.declared.contains name) :
    (machine.remark declared).print limit format args line =
      (machine.print limit format args line).map (·.remark declared) := by
  obtain ⟨store, output, printed, warnings⟩ := machine
  unfold Machine.print Machine.remark
  simp only
  rw [Printf.render_congr fun arg mem name mentioned =>
    Store.agreeOn_remark (agree arg mem name mentioned)]
  cases Printf.render store (some line) format args with
  | error error => rfl
  | ok rendered =>
      simp only [bind, Except.bind]
      split <;> rfl

theorem declareArray_remark (values : List Int) (length : Nat) :
    (machine.remark declared).declareArray name values length =
      (machine.declareArray name values length).remark (declared.insert name) := by
  obtain ⟨⟨scalars, arrays, marks⟩, output, printed, warnings⟩ := machine
  rfl

theorem loopHolds_remark {condition : Option Expr}
    (agree : ∀ expr ∈ condition, ∀ name ∈ expr.names,
      declared.contains name = machine.store.declared.contains name) :
    Exec.loopHolds (machine.remark declared) line condition =
      Exec.loopHolds machine line condition := by
  cases condition with
  | none => rfl
  | some expr =>
      simp only [Exec.loopHolds, Machine.remark, Store.holds_remark (agree expr rfl)]

/-- The marks `declared` are ahead of those of `machine` by names of
`extra` only: they keep every name `machine` has declared, and every other
name they mark is one of `extra`. -/
structure MarksAhead (extra : String → Prop) (declared : Std.HashSet String) (machine : Machine) :
    Prop where
  keeps : ∀ name, machine.store.declared.contains name = true → declared.contains name = true
  within : ∀ name, declared.contains name = true →
    machine.store.declared.contains name = true ∨ extra name

/-- Every name of `names` that is one of `extra` is declared in `machine`. -/
def Covers (extra : String → Prop) (machine : Machine) (names : List String) : Prop :=
  ∀ name ∈ names, extra name → machine.store.declared.contains name = true

variable {extra : String → Prop} {machine' : Machine} {names names' : List String}

theorem MarksAhead.agree (ahead : machine.MarksAhead extra declared)
    (covered : extra name → machine.store.declared.contains name = true) :
    declared.contains name = machine.store.declared.contains name := by
  cases plain : machine.store.declared.contains name with
  | true => exact ahead.keeps name plain
  | false =>
      cases marked : declared.contains name with
      | false => rfl
      | true =>
          rcases ahead.within name marked with declaredHere | isExtra
          · rw [plain] at declaredHere
            cases declaredHere
          · rw [covered isExtra] at plain
            cases plain

theorem MarksAhead.insert (ahead : machine.MarksAhead extra declared)
    (marks : machine'.store.declared = machine.store.declared.insert name) :
    machine'.MarksAhead extra (declared.insert name) where
  keeps name' declaredThere := by
    rw [marks, Std.HashSet.contains_insert] at declaredThere
    rw [Std.HashSet.contains_insert]
    rcases Bool.or_eq_true_iff.mp declaredThere with same | before
    · exact Bool.or_eq_true_iff.mpr (.inl same)
    · exact Bool.or_eq_true_iff.mpr (.inr (ahead.keeps name' before))
  within name' marked := by
    rw [marks, Std.HashSet.contains_insert]
    rw [Std.HashSet.contains_insert] at marked
    rcases Bool.or_eq_true_iff.mp marked with same | before
    · exact .inl (Bool.or_eq_true_iff.mpr (.inl same))
    · rcases ahead.within name' before with declaredHere | isExtra
      · exact .inl (Bool.or_eq_true_iff.mpr (.inr declaredHere))
      · exact .inr isExtra

theorem MarksAhead.same (ahead : machine.MarksAhead extra declared)
    (marks : machine'.store.declared = machine.store.declared) :
    machine'.MarksAhead extra declared where
  keeps name declaredThere := ahead.keeps name (marks ▸ declaredThere)
  within name marked := marks ▸ ahead.within name marked

theorem Covers.agree (ahead : machine.MarksAhead extra declared)
    (covers : machine.Covers extra names) :
    ∀ name ∈ names, declared.contains name = machine.store.declared.contains name :=
  fun name mem => ahead.agree (covers name mem)

theorem Covers.mono (covers : machine.Covers extra names) (sub : names' ⊆ names) :
    machine.Covers extra names' :=
  fun name mem => covers name (sub mem)

theorem Covers.grow (covers : machine.Covers extra names)
    (grows : ∀ name, machine.store.declared.contains name = true →
      machine'.store.declared.contains name = true) :
    machine'.Covers extra names :=
  fun name mem isExtra => grows name (covers name mem isExtra)

theorem Covers.value {value : Option Expr} {line : Nat} (ahead : machine.MarksAhead extra declared)
    (covers : machine.Covers extra (Code.freeNames (.stmt (.decl name value line)))) :
    ∀ expr ∈ value, ∀ name ∈ expr.names,
      declared.contains name = machine.store.declared.contains name := by
  intro expr mem name' mentioned
  obtain rfl := Option.mem_def.mp mem
  exact covers.agree ahead name' mentioned

theorem Covers.args {format : String} {args : List Expr} {line : Nat}
    (ahead : machine.MarksAhead extra declared)
    (covers : machine.Covers extra (Code.freeNames (.stmt (.print format args line)))) :
    ∀ arg ∈ args, ∀ name ∈ arg.names,
      declared.contains name = machine.store.declared.contains name :=
  fun arg mem name mentioned => covers.agree ahead name (List.mem_flatMap.mpr ⟨arg, mem, mentioned⟩)

theorem Covers.condition {condition : Option Expr} {step : Option Stmt} {body : List Stmt}
    {line : Nat} (ahead : machine.MarksAhead extra declared)
    (covers : machine.Covers extra (Code.freeNames (.forLoop condition step body line))) :
    ∀ expr ∈ condition, ∀ name ∈ expr.names,
      declared.contains name = machine.store.declared.contains name := by
  intro expr mem name' mentioned
  obtain rfl := Option.mem_def.mp mem
  exact covers.agree ahead name' (by simp [Code.freeNames, mentioned])

/-- Past code that declares `declares`, the names after it that it does not
declare are covered as before, and those it declares are now declared. -/
theorem Covers.after {first declares : List String}
    (covers : machine.Covers extra (first ++ names.filter fun name => name ∉ declares))
    (grows : ∀ name, machine.store.declared.contains name = true →
      machine'.store.declared.contains name = true)
    (marked : ∀ name ∈ declares, machine'.store.declared.contains name = true) :
    machine'.Covers extra names := by
  intro name mem isExtra
  by_cases declaredHere : name ∈ declares
  · exact marked name declaredHere
  · have kept : name ∈ first ++ names.filter fun name => name ∉ declares := by
      simp [mem, declaredHere]
    exact grows name (covers name kept isExtra)

end Machine

namespace Ending

/-- The ending with the marks `declared` in its machine, if it finished. -/
def remark (declared : Std.HashSet String) : Ending → Ending
  | .done machine iterations flow => .done (machine.remark declared) iterations flow
  | .failed failure iterations => .failed failure iterations

variable {declared : Std.HashSet String} {ending ending' : Ending}

theorem proceeds_remark : (ending.remark declared).proceeds = ending.proceeds := by
  cases ending with
  | done machine iterations flow => cases flow <;> rfl
  | failed failure count => rfl

theorem exit?_remark (exits : ending.exit? = some ending') :
    (ending.remark declared).exit? = some (ending'.remark declared) := by
  cases ending with
  | done machine iterations flow =>
      cases flow <;> cases exits <;> rfl
  | failed failure count =>
      cases exits
      rfl

end Ending

theorem Stmt.declares_forLoop {init : Option Stmt} {condition : Option Expr} {step : Option Stmt}
    {body : List Stmt} {line : Nat} :
    (Stmt.forLoop init condition step body line).declares = Stmt.partDeclares init := by
  cases init <;> rfl

namespace Runs

variable {limits : Limits} {code : Code} {machine : Machine} {iterations : Nat} {ending : Ending}

/-- A run only adds marks. -/
theorem marks_grow (ran : Runs limits code machine iterations ending) :
    ending.Leaves fun machine' => ∀ name, machine.store.declared.contains name = true →
      machine'.store.declared.contains name = true := by
  induction ran with
  | declare declared =>
      obtain ⟨store, stored, rfl⟩ := Machine.declare_ok declared
      intro name declaredBefore
      show store.declared.contains name = true
      rw [Store.declare_declared stored, Std.HashSet.contains_insert, declaredBefore, Bool.or_true]
  | declareArray =>
      intro name declaredBefore
      rw [Machine.declareArray_eq]
      show (Store.declareArray _ _ _ _ true).declared.contains name = true
      rw [Store.declareArray_reached_declared, Std.HashSet.contains_insert, declaredBefore, Bool.or_true]
  | assign assigned =>
      obtain ⟨store, stored, rfl⟩ := Machine.assign_ok assigned
      intro name declaredBefore
      show store.declared.contains name = true
      rw [Store.assign_declared stored]
      exact declaredBefore
  | print printed =>
      obtain ⟨rendered, _, _, rfl⟩ := Machine.print_ok printed
      exact fun name declaredBefore => declaredBefore
  | breakLoop | continueLoop | returnValue | returnNothing | partNone | bodyNil | forEnds
  | whileEnds =>
      exact fun name declaredBefore => declaredBefore
  | declareFails | assignFails | printFails | returnFails | branchFails | forFails
  | forOverBudget | whileFails | whileOverBudget | doOverBudget | doFails => trivial
  | cond _ arms => exact arms
  | whileLoop _ loop | doWhile _ loop => exact loop
  | partSome _ ran | branchesElse _ ran | branchTaken _ _ ran | branchSkipped _ _ ran => exact ran
  | forInitStops _ _ initialized | bodyStops _ _ initialized => exact initialized
  | forLoop _ _ first rest | bodyCons _ _ first rest =>
      exact rest.mono fun _ grown name declaredBefore => grown name (first name declaredBefore)
  | forExits _ _ _ exits ran | whileExits _ _ _ exits ran | doExits _ _ exits ran =>
      exact Ending.leaves_of_exit exits ran
  | forStepStops _ _ _ _ _ _ ran stepped =>
      exact stepped.mono fun _ grown name declaredBefore => grown name (ran name declaredBefore)
  | forRepeats _ _ _ _ _ _ ran steppedOn loop =>
      exact loop.mono fun _ grown name declaredBefore =>
        grown name (steppedOn name (ran name declaredBefore))
  | whileRepeats _ _ _ _ _ ran loop | doRepeats _ _ _ _ _ ran loop =>
      exact loop.mono fun _ grown name declaredBefore => grown name (ran name declaredBefore)
  | doEnds _ _ _ _ ran => exact ran

/-- A statement that finishes has marked every name it surely declares. -/
theorem declares_marked (ran : Runs limits code machine iterations ending) :
    ending.Leaves fun machine' => ∀ name ∈ code.declares,
      machine'.store.declared.contains name = true := by
  induction ran with
  | declare declared =>
      obtain ⟨store, stored, rfl⟩ := Machine.declare_ok declared
      intro name mem
      simp only [Code.declares, Stmt.declares, List.mem_singleton] at mem
      subst mem
      show store.declared.contains _ = true
      rw [Store.declare_declared stored, Std.HashSet.contains_insert, beq_self_eq_true, Bool.true_or]
  | declareArray =>
      intro name mem
      simp only [Code.declares, Stmt.declares, List.mem_singleton] at mem
      subst mem
      rw [Machine.declareArray_eq]
      show (Store.declareArray _ _ _ _ true).declared.contains _ = true
      rw [Store.declareArray_reached_declared, Std.HashSet.contains_insert, beq_self_eq_true, Bool.true_or]
  | forLoop _ loop initialized _ =>
      have grows := loop.marks_grow
      refine grows.mono fun _ grown name mem => grown name (initialized name ?_)
      simpa only [Code.declares, Stmt.declares_forLoop] using mem
  | forInitStops _ _ initialized =>
      simpa only [Code.declares, Stmt.declares_forLoop] using initialized
  | partSome _ ran => exact ran
  | declareFails => trivial
  | assign | assignFails | print | printFails | breakLoop | continueLoop
  | returnValue | returnFails | returnNothing | cond | whileLoop | doWhile | partNone | bodyNil
  | bodyCons | bodyStops | branchesElse | branchTaken | branchSkipped | branchFails | forFails
  | forEnds | forOverBudget | forExits | forStepStops | forRepeats | whileFails | whileEnds
  | whileOverBudget | whileExits | whileRepeats | doOverBudget | doExits | doFails | doEnds
  | doRepeats =>
      exact Ending.leaves_of_forall (fun _ name mem => by
        simp [Code.declares, Stmt.declares, Stmt.partDeclares] at mem) _

variable {extra : String → Prop} {marks : Std.HashSet String}

/-- From a machine whose marks are ahead by names of `extra` only, the code
runs as from the machine itself, as long as every name of `extra` that it
reads before declaring it is declared: it fails in the same way, or it
finishes with the same loop count and flow, its marks still ahead. -/
theorem remark (ran : Runs limits code machine iterations ending)
    (ahead : machine.MarksAhead extra marks) (covers : machine.Covers extra code.freeNames) :
    ∃ marks', Runs limits code (machine.remark marks) iterations (ending.remark marks') ∧
      ending.Leaves (Machine.MarksAhead extra marks') := by
  induction ran generalizing marks with
  | @declare machine machine' iterations name value line declared =>
      obtain ⟨store, stored, rfl⟩ := Machine.declare_ok declared
      refine ⟨marks.insert name, .declare ?_, ahead.insert (Store.declare_declared stored)⟩
      rw [Machine.declare_remark (covers.value ahead), declared]
      rfl
  | declareFails refused =>
      refine ⟨marks, .declareFails ?_, trivial⟩
      rw [Machine.declare_remark (covers.value ahead), refused]
      rfl
  | @declareArray machine iterations name size values line =>
      have ran := @Runs.declareArray limits (machine.remark marks) iterations name size values line
      rw [Machine.declareArray_remark] at ran
      refine ⟨marks.insert name, ran, ahead.insert ?_⟩
      rw [Machine.declareArray_eq]
      exact Store.declareArray_reached_declared _ _
  | assign assigned =>
      obtain ⟨store, stored, rfl⟩ := Machine.assign_ok assigned
      refine ⟨marks, .assign ?_, ahead.same (Store.assign_declared stored)⟩
      rw [Machine.assign_remark (covers.agree ahead), assigned]
      rfl
  | assignFails refused =>
      refine ⟨marks, .assignFails ?_, trivial⟩
      rw [Machine.assign_remark (covers.agree ahead), refused]
      rfl
  | print printed =>
      obtain ⟨rendered, _, _, rfl⟩ := Machine.print_ok printed
      refine ⟨marks, .print ?_, ahead.same rfl⟩
      rw [Machine.print_remark (covers.args ahead), printed]
      rfl
  | printFails refused =>
      refine ⟨marks, .printFails ?_, trivial⟩
      rw [Machine.print_remark (covers.args ahead), refused]
      rfl
  | breakLoop => exact ⟨marks, .breakLoop, ahead⟩
  | continueLoop => exact ⟨marks, .continueLoop, ahead⟩
  | returnValue evaluated =>
      exact ⟨marks, .returnValue ((Store.eval_remark (covers.agree ahead)).trans evaluated), ahead⟩
  | returnFails refused =>
      exact ⟨marks, .returnFails ((Store.eval_remark (covers.agree ahead)).trans refused), trivial⟩
  | returnNothing => exact ⟨marks, .returnNothing, ahead⟩
  | cond _ arms =>
      obtain ⟨marks', armsRun, ahead'⟩ := arms ahead covers
      exact ⟨marks', .cond armsRun, ahead'⟩
  | forLoop initRan _ initialized loop =>
      obtain ⟨marksInit, initRun, aheadInit⟩ :=
        initialized ahead (covers.mono fun _ mem => List.mem_append_left _ mem)
      obtain ⟨marksLoop, loopRun, aheadLoop⟩ :=
        loop aheadInit (covers.after initRan.marks_grow initRan.declares_marked)
      exact ⟨marksLoop, .forLoop initRun loopRun, aheadLoop⟩
  | forInitStops _ stops initialized =>
      obtain ⟨marksInit, initRun, aheadInit⟩ :=
        initialized ahead (covers.mono fun _ mem => List.mem_append_left _ mem)
      exact ⟨marksInit, .forInitStops initRun (Ending.proceeds_remark.trans stops), aheadInit⟩
  | whileLoop _ loop =>
      obtain ⟨marks', loopRun, ahead'⟩ := loop ahead covers
      exact ⟨marks', .whileLoop loopRun, ahead'⟩
  | doWhile _ loop =>
      obtain ⟨marks', loopRun, ahead'⟩ := loop ahead covers
      exact ⟨marks', .doWhile loopRun, ahead'⟩
  | partSome _ ran =>
      obtain ⟨marks', stmtRun, ahead'⟩ := ran ahead covers
      exact ⟨marks', .partSome stmtRun, ahead'⟩
  | partNone => exact ⟨marks, .partNone, ahead⟩
  | bodyNil => exact ⟨marks, .bodyNil, ahead⟩
  | bodyCons firstRan _ first rest =>
      obtain ⟨marksFirst, firstRun, aheadFirst⟩ :=
        first ahead (covers.mono fun _ mem => List.mem_append_left _ mem)
      obtain ⟨marksRest, restRun, aheadRest⟩ :=
        rest aheadFirst (covers.after firstRan.marks_grow firstRan.declares_marked)
      exact ⟨marksRest, .bodyCons firstRun restRun, aheadRest⟩
  | bodyStops _ stops first =>
      obtain ⟨marksFirst, firstRun, aheadFirst⟩ :=
        first ahead (covers.mono fun _ mem => List.mem_append_left _ mem)
      exact ⟨marksFirst, .bodyStops firstRun (Ending.proceeds_remark.trans stops), aheadFirst⟩
  | branchesElse _ ran =>
      obtain ⟨marks', elseRun, ahead'⟩ := ran ahead covers
      exact ⟨marks', .branchesElse elseRun, ahead'⟩
  | branchTaken chosen _ ran =>
      obtain ⟨marks', bodyRun, ahead'⟩ := ran ahead (covers.mono Code.branch_body_sub)
      have agree := (covers.mono Code.branch_condition_sub).agree ahead
      exact ⟨marks', .branchTaken ((Store.holds_remark agree).trans chosen) bodyRun, ahead'⟩
  | branchSkipped skipped _ rest =>
      obtain ⟨marks', restRun, ahead'⟩ := rest ahead (covers.mono Code.branch_rest_sub)
      have agree := (covers.mono Code.branch_condition_sub).agree ahead
      exact ⟨marks', .branchSkipped ((Store.holds_remark agree).trans skipped) restRun, ahead'⟩
  | branchFails refused =>
      have agree := (covers.mono Code.branch_condition_sub).agree ahead
      exact ⟨marks, .branchFails ((Store.holds_remark agree).trans refused), trivial⟩
  | forFails refused =>
      exact ⟨marks, .forFails ((Machine.loopHolds_remark (covers.condition ahead)).trans refused),
        trivial⟩
  | forEnds ended =>
      exact ⟨marks, .forEnds ((Machine.loopHolds_remark (covers.condition ahead)).trans ended),
        ahead⟩
  | forOverBudget held spent =>
      exact ⟨marks,
        .forOverBudget ((Machine.loopHolds_remark (covers.condition ahead)).trans held) spent,
        trivial⟩
  | forExits held within _ exits ran =>
      obtain ⟨marks', bodyRun, ahead'⟩ := ran ahead (covers.mono Code.forLoop_body_sub)
      exact ⟨marks', .forExits ((Machine.loopHolds_remark (covers.condition ahead)).trans held)
        within bodyRun (Ending.exit?_remark exits), Ending.leaves_of_exit exits ahead'⟩
  | forStepStops held within bodyRan latched _ stops ran stepped =>
      obtain ⟨marksBody, bodyRun, aheadBody⟩ := ran ahead (covers.mono Code.forLoop_body_sub)
      obtain ⟨marksStep, stepRun, aheadStep⟩ := stepped aheadBody
        ((covers.mono Code.forLoop_step_sub).grow bodyRan.marks_grow)
      exact ⟨marksStep, .forStepStops ((Machine.loopHolds_remark (covers.condition ahead)).trans held)
        within bodyRun latched stepRun (Ending.proceeds_remark.trans stops), aheadStep⟩
  | forRepeats held within bodyRan latched stepRan _ ran steppedOn loop =>
      obtain ⟨marksBody, bodyRun, aheadBody⟩ := ran ahead (covers.mono Code.forLoop_body_sub)
      obtain ⟨marksStep, stepRun, aheadStep⟩ := steppedOn aheadBody
        ((covers.mono Code.forLoop_step_sub).grow bodyRan.marks_grow)
      obtain ⟨marksLoop, loopRun, aheadLoop⟩ :=
        loop aheadStep ((covers.grow bodyRan.marks_grow).grow stepRan.marks_grow)
      exact ⟨marksLoop, .forRepeats ((Machine.loopHolds_remark (covers.condition ahead)).trans held)
        within bodyRun latched stepRun loopRun, aheadLoop⟩
  | whileFails refused =>
      have agree := (covers.mono Code.whileLoop_condition_sub).agree ahead
      exact ⟨marks, .whileFails ((Store.holds_remark agree).trans refused), trivial⟩
  | whileEnds ended =>
      have agree := (covers.mono Code.whileLoop_condition_sub).agree ahead
      exact ⟨marks, .whileEnds ((Store.holds_remark agree).trans ended), ahead⟩
  | whileOverBudget held spent =>
      have agree := (covers.mono Code.whileLoop_condition_sub).agree ahead
      exact ⟨marks, .whileOverBudget ((Store.holds_remark agree).trans held) spent, trivial⟩
  | whileExits held within _ exits ran =>
      have agree := (covers.mono Code.whileLoop_condition_sub).agree ahead
      obtain ⟨marks', bodyRun, ahead'⟩ := ran ahead (covers.mono Code.whileLoop_body_sub)
      exact ⟨marks', .whileExits ((Store.holds_remark agree).trans held) within bodyRun
        (Ending.exit?_remark exits), Ending.leaves_of_exit exits ahead'⟩
  | whileRepeats held within bodyRan latched _ ran loop =>
      have agree := (covers.mono Code.whileLoop_condition_sub).agree ahead
      obtain ⟨marksBody, bodyRun, aheadBody⟩ := ran ahead (covers.mono Code.whileLoop_body_sub)
      obtain ⟨marksLoop, loopRun, aheadLoop⟩ := loop aheadBody (covers.grow bodyRan.marks_grow)
      exact ⟨marksLoop, .whileRepeats ((Store.holds_remark agree).trans held) within bodyRun
        latched loopRun, aheadLoop⟩
  | doOverBudget spent => exact ⟨marks, .doOverBudget spent, trivial⟩
  | doExits within _ exits ran =>
      obtain ⟨marks', bodyRun, ahead'⟩ := ran ahead (covers.mono Code.doWhile_body_sub)
      exact ⟨marks', .doExits within bodyRun (Ending.exit?_remark exits),
        Ending.leaves_of_exit exits ahead'⟩
  | doFails within bodyRan latched refused ran =>
      obtain ⟨marksBody, bodyRun, aheadBody⟩ := ran ahead (covers.mono Code.doWhile_body_sub)
      have agree := ((covers.grow bodyRan.marks_grow).mono Code.doWhile_condition_sub).agree aheadBody
      exact ⟨marksBody, .doFails within bodyRun latched ((Store.holds_remark agree).trans refused),
        trivial⟩
  | doEnds within bodyRan latched ended ran =>
      obtain ⟨marksBody, bodyRun, aheadBody⟩ := ran ahead (covers.mono Code.doWhile_body_sub)
      have agree := ((covers.grow bodyRan.marks_grow).mono Code.doWhile_condition_sub).agree aheadBody
      exact ⟨marksBody, .doEnds within bodyRun latched ((Store.holds_remark agree).trans ended),
        aheadBody⟩
  | doRepeats within bodyRan latched held _ ran loop =>
      obtain ⟨marksBody, bodyRun, aheadBody⟩ := ran ahead (covers.mono Code.doWhile_body_sub)
      have agree := ((covers.grow bodyRan.marks_grow).mono Code.doWhile_condition_sub).agree aheadBody
      obtain ⟨marksLoop, loopRun, aheadLoop⟩ := loop aheadBody (covers.grow bodyRan.marks_grow)
      exact ⟨marksLoop, .doRepeats within bodyRun latched ((Store.holds_remark agree).trans held)
        loopRun, aheadLoop⟩

end Runs

end ClassroomC
