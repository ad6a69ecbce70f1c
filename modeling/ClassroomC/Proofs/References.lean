import Mathlib.Data.List.Nodup
import ClassroomC.Proofs.Folding
import ClassroomC.Proofs.Representation

/-!
# The binder's reference check holds for the whole run

Before a run, the binder checks every use of a name once, in source order:
some declaration of the name comes before the use, and the name has the kind
of use, array or value, in the store being built. The run then reads and
writes names many times, in every iteration of every loop. The check is
sound for all of those accesses:

* every name the run uses has storage in the prepared store, and a run never
  removes storage, so a read or write of an undeclared name always reports
  that the name's declaration never ran, never that it is unknown;
* a name whose declarations all have one kind keeps that kind in every
  store of the run, and every use of it has that kind, so no use of it as
  the other kind is ever reported.

Both follow from one invariant of the run (`Store.Keeps`) against the
prepared store, and one fact of the walk: each occurrence of a name in the
program has the kind of one of its declarations (`Binding.Walked`).
-/

namespace ClassroomC

/-- What a target reads or writes, with whether it indexes the name. -/
def Target.references : Target → List (String × Bool)
  | .var name => [(name, false)]
  | .index name position => (name, true) :: position.references

namespace Stmt

mutual

/-- Every occurrence of a name in a statement, nested bodies included: each
use, with whether it indexes the name, and each declaration, with whether it
declares an array. -/
def occurrences : Stmt → List (String × Bool)
  | .decl name value _ => (value.map Expr.references).getD [] ++ [(name, false)]
  | .arrayDecl name _ _ _ => [(name, true)]
  | .assign target _ value _ => value.references ++ target.references
  | .cond branches elseBody _ => branchesOccurrences branches ++ bodyOccurrences elseBody
  | .forLoop init condition step body _ =>
    partOccurrences init ++ (condition.map Expr.references).getD [] ++ bodyOccurrences body ++
      partOccurrences step
  | .whileLoop condition body _ => condition.references ++ bodyOccurrences body
  | .doWhile body condition _ => bodyOccurrences body ++ condition.references
  | .print _ args _ => args.flatMap Expr.references
  | .ret value _ => (value.map Expr.references).getD []
  | .breakLoop _ | .continueLoop _ => []

def partOccurrences : Option Stmt → List (String × Bool)
  | some stmt => occurrences stmt
  | none => []

def bodyOccurrences : List Stmt → List (String × Bool)
  | [] => []
  | stmt :: more => occurrences stmt ++ bodyOccurrences more

def branchesOccurrences : List Branch → List (String × Bool)
  | [] => []
  | .mk condition body :: more =>
    condition.references ++ bodyOccurrences body ++ branchesOccurrences more

end

mutual

/-- Every declaration in a statement, nested ones included, with whether it
declares an array. -/
def declarations : Stmt → List (String × Bool)
  | .decl name _ _ => [(name, false)]
  | .arrayDecl name _ _ _ => [(name, true)]
  | .cond branches elseBody _ => branchesDeclarations branches ++ bodyDeclarations elseBody
  | .forLoop init _ step body _ =>
    partDeclarations init ++ bodyDeclarations body ++ partDeclarations step
  | .whileLoop _ body _ | .doWhile body _ _ => bodyDeclarations body
  | .assign .. | .print .. | .breakLoop _ | .continueLoop _ | .ret .. => []

def partDeclarations : Option Stmt → List (String × Bool)
  | some stmt => declarations stmt
  | none => []

def bodyDeclarations : List Stmt → List (String × Bool)
  | [] => []
  | stmt :: more => declarations stmt ++ bodyDeclarations more

def branchesDeclarations : List Branch → List (String × Bool)
  | [] => []
  | .mk _ body :: more => bodyDeclarations body ++ branchesDeclarations more

end

end Stmt

/-- The occurrences of names in each piece of code the executor runs. -/
def Code.occurrences : Code → List (String × Bool)
  | .stmt statement => statement.occurrences
  | .part piece => Stmt.partOccurrences piece
  | .body stmts => Stmt.bodyOccurrences stmts
  | .branches _ arms elseBody => Stmt.branchesOccurrences arms ++ Stmt.bodyOccurrences elseBody
  | .forLoop condition step loopBody _ =>
    (condition.map Expr.references).getD [] ++ Stmt.bodyOccurrences loopBody ++
      Stmt.partOccurrences step
  | .whileLoop condition loopBody _ => condition.references ++ Stmt.bodyOccurrences loopBody
  | .doWhile loopBody condition _ => Stmt.bodyOccurrences loopBody ++ condition.references

/-! ## Faults the check allows -/

/-- The faults a run may still raise after the binder's check, against the
prepared store `reference` and the names `fixed` whose kind never changes:
an undeclared name that has storage, whose declaration has not run, and a
use of the wrong kind only for a name whose kind is not fixed. -/
def Fault.Allowed (fixed : String → Prop) (reference : Store) : Fault → Prop
  | .undeclared name reason => reason = .neverExecuted ∧ reference.contains name = true
  | .arrayAsValue name | .notAnArray name | .arrayAsWhole name => ¬ fixed name
  | .stringAsInteger _ | .divisionByZero | .moduloByZero | .indexOutOfRange .. | .loopBudget _
  | .outputLimit _ => True

/-- A failure the check allows: a runtime fault it allows, or a host error. -/
def Failure.Allowed (fixed : String → Prop) (reference : Store) : Failure → Prop
  | .runtime error => error.fault.Allowed fixed reference
  | .host _ => True

namespace Store

variable {fixed : String → Prop} {reference store store' : Store} {name : String}
  {asArray : Bool} {line : Option Nat}

/-- The run's store against the prepared store `reference`: every name with
storage there has storage here, and every name of fixed kind has its kind
there. -/
structure Keeps (store : Store) (fixed : String → Prop) (reference : Store) : Prop where
  stored : ∀ name, reference.contains name = true → store.contains name = true
  kinds : ∀ name, fixed name → reference.contains name = true →
    store.isArray name = reference.isArray name

/-- A use or declaration of `name` as `asArray` passes the check against
`reference`: the name has storage there, and if its kind is fixed, that kind
is `asArray`. -/
def Admits (fixed : String → Prop) (reference : Store) (occurrence : String × Bool) : Prop :=
  reference.contains occurrence.1 = true ∧
    (fixed occurrence.1 → reference.isArray occurrence.1 = occurrence.2)

theorem keeps_refl (fixed : String → Prop) (reference : Store) : reference.Keeps fixed reference :=
  ⟨fun _ stored => stored, fun _ _ _ => rfl⟩

theorem Keeps.admits (keeps : store.Keeps fixed reference)
    (admits : reference.Admits fixed (name, asArray)) :
    store.contains name = true ∧ (fixed name → store.isArray name = asArray) :=
  ⟨keeps.stored name admits.1, fun isFixed =>
    (keeps.kinds name isFixed admits.1).trans (admits.2 isFixed)⟩

/-! ## Each access fails only as the check allows -/

theorem checkDeclared_error {error : RuntimeError} (stored : store.contains name = true)
    (refused : store.checkDeclared name line = .error error) :
    error = ⟨.undeclared name .neverExecuted, line⟩ := by
  unfold checkDeclared at refused
  by_cases marked : store.declared.contains name = true
  · rw [if_pos marked] at refused
    cases refused
  · rw [if_neg marked, if_pos stored] at refused
    cases refused
    rfl

/-- A name with storage that holds no scalar holds an array. -/
theorem array_of_no_scalar (stored : store.contains name = true)
    (missing : store.scalars[name]? = none) : store.arrays.contains name = true := by
  have noScalar : store.scalars.contains name = false := by
    rw [← Std.HashMap.isSome_getElem?_eq_contains, missing]
    rfl
  simpa [Store.contains, noScalar] using stored

/-- A name with storage that holds no array holds a scalar. -/
theorem scalar_of_no_array (stored : store.contains name = true)
    (missing : store.arrays[name]? = none) : store.scalars.contains name = true := by
  have noArray : store.arrays.contains name = false := by
    rw [← Std.HashMap.isSome_getElem?_eq_contains, missing]
    rfl
  simpa [Store.contains, noArray] using stored

/-- The failure of a read of a scalar that has storage: its declaration has
not run, or it is an array, which a name of fixed scalar kind is not. -/
theorem get_error {error : RuntimeError} (stored : store.contains name = true)
    (kind : fixed name → store.isArray name = false) (refused : store.get name line = .error error) :
    error = ⟨.undeclared name .neverExecuted, line⟩ ∨
      (error = ⟨.arrayAsValue name, line⟩ ∧ ¬ fixed name) := by
  rw [get_eq] at refused
  cases checked : store.checkDeclared name line with
  | error error' =>
      rw [checked] at refused
      cases refused
      exact .inl (checkDeclared_error stored checked)
  | ok passed =>
      simp only [checked, bind, Except.bind] at refused
      split at refused
      · cases refused
      · next missing =>
          have isArray := array_of_no_scalar stored missing
          rw [if_pos isArray] at refused
          cases refused
          exact .inr ⟨rfl, fun isFixed => by simp [Store.isArray, isArray] at kind; exact kind isFixed⟩

theorem set_error {error : RuntimeError} {value : Int} (stored : store.contains name = true)
    (kind : fixed name → store.isArray name = false)
    (refused : store.set name value line = .error error) :
    error = ⟨.undeclared name .neverExecuted, line⟩ ∨
      (error = ⟨.arrayAsWhole name, line⟩ ∧ ¬ fixed name) := by
  rw [set_eq] at refused
  cases checked : store.checkDeclared name line with
  | error error' =>
      rw [checked] at refused
      cases refused
      exact .inl (checkDeclared_error stored checked)
  | ok passed =>
      simp only [checked, bind, Except.bind] at refused
      split at refused
      · cases refused
      · next noScalar =>
          have isArray : store.arrays.contains name = true := by
            unfold Store.contains at stored
            simpa [noScalar] using stored
          rw [if_pos isArray] at refused
          cases refused
          exact .inr ⟨rfl, fun isFixed => by simp [Store.isArray, isArray] at kind; exact kind isFixed⟩

theorem arrayOf_error {error : RuntimeError} (stored : store.contains name = true)
    (kind : fixed name → store.isArray name = true)
    (refused : store.arrayOf name line = .error error) :
    error = ⟨.undeclared name .neverExecuted, line⟩ ∨
      (error = ⟨.notAnArray name, line⟩ ∧ ¬ fixed name) := by
  rw [arrayOf_eq] at refused
  cases checked : store.checkDeclared name line with
  | error error' =>
      rw [checked] at refused
      cases refused
      exact .inl (checkDeclared_error stored checked)
  | ok passed =>
      simp only [checked, bind, Except.bind] at refused
      split at refused
      · cases refused
      · next missing =>
          rw [if_pos (scalar_of_no_array stored missing)] at refused
          cases refused
          refine .inr ⟨rfl, fun isFixed => ?_⟩
          have isArray := kind isFixed
          rw [Store.isArray, ← Std.HashMap.isSome_getElem?_eq_contains, missing] at isArray
          cases isArray

variable {error : RuntimeError}

theorem get_allowed (keeps : store.Keeps fixed reference) (admits : reference.Admits fixed (name, false))
    (refused : store.get name line = .error error) : error.fault.Allowed fixed reference := by
  obtain ⟨stored, kind⟩ := keeps.admits admits
  rcases get_error stored kind refused with rfl | ⟨rfl, notFixed⟩
  · exact ⟨rfl, admits.1⟩
  · exact notFixed

theorem set_allowed (keeps : store.Keeps fixed reference) (admits : reference.Admits fixed (name, false))
    {value : Int} (refused : store.set name value line = .error error) :
    error.fault.Allowed fixed reference := by
  obtain ⟨stored, kind⟩ := keeps.admits admits
  rcases set_error stored kind refused with rfl | ⟨rfl, notFixed⟩
  · exact ⟨rfl, admits.1⟩
  · exact notFixed

theorem arrayOf_allowed (keeps : store.Keeps fixed reference)
    (admits : reference.Admits fixed (name, true)) (refused : store.arrayOf name line = .error error) :
    error.fault.Allowed fixed reference := by
  obtain ⟨stored, kind⟩ := keeps.admits admits
  rcases arrayOf_error stored kind refused with rfl | ⟨rfl, notFixed⟩
  · exact ⟨rfl, admits.1⟩
  · exact notFixed

theorem position_allowed {index : Int} {length : Nat}
    (refused : Store.position name index length line = .error error) :
    error.fault.Allowed fixed reference := by
  unfold Store.position at refused
  split at refused
  · cases refused
  · cases refused
    trivial

theorem getElement_allowed (keeps : store.Keeps fixed reference)
    (admits : reference.Admits fixed (name, true)) {index : Int}
    (refused : store.getElement name index line = .error error) :
    error.fault.Allowed fixed reference := by
  rw [getElement_eq] at refused
  rcases bind_eq_error refused with found | ⟨values, _, placing⟩
  · exact arrayOf_allowed keeps admits found
  rcases bind_eq_error placing with placed | ⟨position, _, read⟩
  · exact position_allowed placed
  · cases read

theorem setElement_allowed (keeps : store.Keeps fixed reference)
    (admits : reference.Admits fixed (name, true)) {index value : Int}
    (refused : store.setElement name index value line = .error error) :
    error.fault.Allowed fixed reference := by
  rw [setElement_eq] at refused
  rcases bind_eq_error refused with found | ⟨values, _, placing⟩
  · exact arrayOf_allowed keeps admits found
  rcases bind_eq_error placing with placed | ⟨position, _, stored⟩
  · exact position_allowed placed
  · cases stored

end Store

theorem Eval.applyBinary_allowed {fixed : String → Prop} {reference : Store} {op : BinOp}
    {left right : Int} {line : Option Nat} {error : RuntimeError}
    (refused : Eval.applyBinary op left right line = .error error) :
    error.fault.Allowed fixed reference := by
  cases op
  case div | mod =>
    simp only [Eval.applyBinary] at refused
    split at refused
    · cases refused
      trivial
    · cases refused
  all_goals
    simp only [Eval.applyBinary] at refused
    cases refused

/-- Evaluation fails only as the check allows, when every name the
expression reads passes the check. -/
theorem eval_allowed {fixed : String → Prop} {reference store : Store} {line : Option Nat}
    {error : RuntimeError} (keeps : store.Keeps fixed reference) {expr : Expr}
    (admits : ∀ occurrence ∈ expr.references, reference.Admits fixed occurrence)
    (refused : eval store line expr = .error error) : error.fault.Allowed fixed reference := by
  induction expr generalizing error with
  | int value => cases refused
  | str value =>
      cases refused
      trivial
  | var name => exact Store.get_allowed keeps (admits _ (by simp [Expr.references])) refused
  | index name position ih =>
      simp only [eval] at refused
      rcases bind_eq_error refused with placed | ⟨index, _, read⟩
      · exact ih (fun occurrence mem => admits occurrence (by simp [Expr.references, mem])) placed
      · exact Store.getElement_allowed keeps (admits _ (by simp [Expr.references])) read
  | binary op left right ihLeft ihRight =>
      have leftAdmits : ∀ occurrence ∈ left.references, reference.Admits fixed occurrence :=
        fun occurrence mem => admits occurrence (by simp [Expr.references, mem])
      have rightAdmits : ∀ occurrence ∈ right.references, reference.Admits fixed occurrence :=
        fun occurrence mem => admits occurrence (by simp [Expr.references, mem])
      -- the left operand is evaluated first; a failure after it comes from the
      -- right operand, or from the operator, whose only faults are zero divisors
      cases op
      case and | or =>
        simp only [eval] at refused
        rcases bind_eq_error refused with leftFails | ⟨first, _, rest⟩
        · exact ihLeft leftAdmits leftFails
        split at rest
        · cases rest
        · rcases bind_eq_error rest with rightFails | ⟨second, _, done⟩
          · exact ihRight rightAdmits rightFails
          · cases done
      all_goals
        simp only [eval] at refused
        rcases bind_eq_error refused with leftFails | ⟨first, _, rest⟩
        · exact ihLeft leftAdmits leftFails
        rcases bind_eq_error rest with rightFails | ⟨second, _, applied⟩
        · exact ihRight rightAdmits rightFails
        · exact Eval.applyBinary_allowed applied
  | unary op operand ih =>
      simp only [eval] at refused
      rcases bind_eq_error refused with operandFails | ⟨value, _, applied⟩
      · exact ih (fun occurrence mem => admits occurrence (by simpa [Expr.references] using mem))
          operandFails
      · cases applied

namespace Printf

variable {store : Store} {line : Option Nat} {error : RuntimeError}

theorem mapError_runtime_eq {α : Type} {x : Except RuntimeError α}
    (mapped : x.mapError Failure.runtime = .error (.runtime error)) : x = .error error := by
  cases x with
  | error error' =>
      cases mapped
      rfl
  | ok value => cases mapped

theorem mapError_host_ne_runtime {α : Type} {x : Except HostError α} :
    x.mapError Failure.host ≠ .error (.runtime error) := by
  intro mapped
  cases x with
  | error error' => cases mapped
  | ok value => cases mapped

/-- A specifier fails at run time only by evaluating its argument. -/
theorem renderSpec_runtime {spec : Spec} {args : List Expr} {progress : Progress}
    (rendered : renderSpec store line spec args progress = .error (.runtime error)) :
    ∃ arg ∈ args, eval store line arg = .error error := by
  cases args with
  | nil =>
      unfold renderSpec at rendered
      simp only [pure, Except.pure] at rendered
      split at rendered <;> cases rendered
  | cons arg more =>
      refine ⟨arg, List.mem_cons_self, ?_⟩
      unfold renderSpec at rendered
      simp only [bind, Except.bind, pure, Except.pure] at rendered
      -- the arms that fail do so in an evaluation, a padding or an integer
      -- layout; only the evaluation fails at run time
      repeat' split at rendered
      all_goals first
        | cases rendered; done
        | skip
      all_goals cases rendered
      all_goals first
        | exact mapError_runtime_eq ‹_›
        | exact absurd ‹_› mapError_host_ne_runtime

theorem renderPieces_runtime (pieces : List Piece) {args : List Expr} {progress : Progress}
    (rendered : renderPieces store line pieces args progress = .error (.runtime error)) :
    ∃ arg ∈ args, eval store line arg = .error error := by
  induction pieces generalizing args progress with
  | nil => cases rendered
  | cons piece more ih =>
      cases piece with
      | literal text => exact ih rendered
      | spec spec =>
          simp only [renderPieces] at rendered
          rcases bind_eq_error rendered with specFails | ⟨⟨progress', rest⟩, specDone, moreFails⟩
          · exact renderSpec_runtime specFails
          · obtain ⟨arg, mem, evaluated⟩ := ih moreFails
            -- the pieces after a specifier take the arguments it left
            rcases renderSpec_rest specDone with rfl | rfl
            · exact ⟨arg, mem, evaluated⟩
            · exact ⟨arg, List.mem_of_mem_tail mem, evaluated⟩

/-- A `printf` fails at run time only by evaluating one of its arguments. -/
theorem render_runtime {format : String} {args : List Expr}
    (rendered : render store line format args = .error (.runtime error)) :
    ∃ arg ∈ args, eval store line arg = .error error := by
  unfold render at rendered
  rcases bind_eq_error rendered with piecesFail | ⟨_, _, done⟩
  · exact renderPieces_runtime _ piecesFail
  · cases done

end Printf

section Statements

variable {fixed : String → Prop} {reference store : Store} {error : RuntimeError}

theorem AssignOp.combine_allowed {op : AssignOp} {current value : Int} {fault : Fault}
    (refused : op.combine current value = .error fault) : fault.Allowed fixed reference := by
  cases op
  case div | mod =>
    simp only [AssignOp.combine, Arith.divide, Arith.remainder] at refused
    split at refused
    · cases refused
      trivial
    · cases refused
  all_goals
    simp only [AssignOp.combine] at refused
    cases refused

theorem AssignOp.update_allowed {op : AssignOp} {line : Nat} {current : Unit → Except RuntimeError Int}
    {value : Int} (reading : ∀ error, current () = .error error → error.fault.Allowed fixed reference)
    (refused : op.update line current value = .error error) : error.fault.Allowed fixed reference := by
  cases op
  case set => cases refused
  all_goals
    simp only [AssignOp.update] at refused
    rcases bind_eq_error refused with readFails | ⟨old, _, combined⟩
    · exact reading error readFails
    cases combining : AssignOp.combine _ old value with
    | error fault =>
        rw [combining] at combined
        cases combined
        exact AssignOp.combine_allowed combining
    | ok result =>
        rw [combining] at combined
        cases combined

theorem Store.assign_allowed (keeps : store.Keeps fixed reference) {target : Target}
    {op : AssignOp} {expr : Expr} {line : Nat}
    (admits : ∀ occurrence ∈ expr.references ++ target.references,
      reference.Admits fixed occurrence)
    (refused : store.assign target op expr line = .error error) :
    error.fault.Allowed fixed reference := by
  unfold Store.assign at refused
  rcases bind_eq_error refused with valueFails | ⟨value, _, written⟩
  · exact eval_allowed keeps (fun occurrence mem => admits occurrence (List.mem_append_left _ mem))
      valueFails
  cases target with
  | var name =>
      have nameAdmits : reference.Admits fixed (name, false) :=
        admits _ (by simp [Target.references])
      rcases bind_eq_error written with updateFails | ⟨value', _, stored⟩
      · exact AssignOp.update_allowed (fun _ read => Store.get_allowed keeps nameAdmits read)
          updateFails
      · exact Store.set_allowed keeps nameAdmits stored
  | index name position =>
      have nameAdmits : reference.Admits fixed (name, true) :=
        admits _ (by simp [Target.references])
      rcases bind_eq_error written with placed | ⟨index, _, updating⟩
      · exact eval_allowed keeps (fun occurrence mem =>
          admits occurrence (by simp [Target.references, mem])) placed
      rcases bind_eq_error updating with updateFails | ⟨value', _, stored⟩
      · exact AssignOp.update_allowed (fun _ read => Store.getElement_allowed keeps nameAdmits read)
          updateFails
      · exact Store.setElement_allowed keeps nameAdmits stored

theorem Store.declare_allowed (keeps : store.Keeps fixed reference) {name : String}
    {value : Option Expr} {line : Nat}
    (admits : ∀ expr ∈ value, ∀ occurrence ∈ expr.references, reference.Admits fixed occurrence)
    (refused : store.declare name value line = .error error) :
    error.fault.Allowed fixed reference := by
  unfold Store.declare at refused
  cases value with
  | none => cases refused
  | some expr =>
      rcases bind_eq_error refused with valueFails | ⟨initial, _, declared⟩
      · exact eval_allowed keeps (admits expr rfl) valueFails
      · cases declared

theorem holds_allowed (keeps : store.Keeps fixed reference) {expr : Expr} {line : Option Nat}
    (admits : ∀ occurrence ∈ expr.references, reference.Admits fixed occurrence)
    (refused : holds store line expr = .error error) : error.fault.Allowed fixed reference := by
  unfold holds at refused
  rcases bind_eq_error refused with valueFails | ⟨value, _, decided⟩
  · exact eval_allowed keeps admits valueFails
  · cases decided

theorem Machine.print_allowed {machine : Machine} (keeps : machine.store.Keeps fixed reference)
    {limit : Nat} {format : String} {args : List Expr} {line : Nat} {failure : Failure}
    (admits : ∀ arg ∈ args, ∀ occurrence ∈ arg.references, reference.Admits fixed occurrence)
    (refused : machine.print limit format args line = .error failure) :
    failure.Allowed fixed reference := by
  rcases Machine.print_error refused with rendered | ⟨_, _, _, rfl⟩
  · cases failure with
    | host error => trivial
    | runtime error =>
        obtain ⟨arg, mem, evaluated⟩ := Printf.render_runtime rendered
        exact eval_allowed keeps (admits arg mem) evaluated
  · trivial

theorem Exec.loopHolds_allowed {machine : Machine} (keeps : machine.store.Keeps fixed reference)
    {line : Nat} {condition : Option Expr} {failure : Failure}
    (admits : ∀ expr ∈ condition, ∀ occurrence ∈ expr.references, reference.Admits fixed occurrence)
    (refused : Exec.loopHolds machine line condition = .error failure) :
    failure.Allowed fixed reference := by
  cases condition with
  | none => cases refused
  | some expr =>
      simp only [Exec.loopHolds] at refused
      cases held : holds machine.store (some line) expr with
      | ok value =>
          rw [held] at refused
          cases refused
      | error error =>
          rw [held] at refused
          cases refused
          exact holds_allowed keeps (admits expr rfl) held

end Statements

/-! ## The run keeps storage and fixed kinds -/

namespace Store

variable {fixed : String → Prop} {reference store store' : Store} {name : String}

theorem Keeps.of_same (keeps : store.Keeps fixed reference)
    (stored : ∀ name, store.contains name = true → store'.contains name = true)
    (kinds : ∀ name, store'.isArray name = store.isArray name) : store'.Keeps fixed reference :=
  ⟨fun name inReference => stored name (keeps.stored name inReference),
    fun name isFixed inReference => (kinds name).trans (keeps.kinds name isFixed inReference)⟩

/-- Declaring a name with the kind the check admits for it keeps the run's
store in line with the prepared one. -/
theorem Keeps.declare (keeps : store.Keeps fixed reference) {slot : Slot}
    (replaces : store.Replaces store' name slot)
    (admits : reference.Admits fixed (name, (slot.elements?).isSome)) (reached : Bool) :
    (store'.mark name reached).Keeps fixed reference where
  stored name' inReference := by
    rw [mark_contains]
    exact replaces.contains_of (keeps.stored name' inReference)
  kinds name' isFixed inReference := by
    rw [mark_isArray, replaces.isArray]
    split
    · next same =>
        subst same
        exact (admits.2 isFixed).symm
    · exact keeps.kinds name' isFixed inReference

theorem assign_writes {target : Target} {op : AssignOp} {expr : Expr} {line : Nat}
    (assigned : store.assign target op expr line = .ok store') :
    (∃ name value, store.set name value (some line) = .ok store') ∨
      ∃ name index value, store.setElement name index value (some line) = .ok store' := by
  unfold Store.assign at assigned
  obtain ⟨value, _, written⟩ := bind_eq_ok assigned
  cases target with
  | var name =>
      obtain ⟨value', _, stored⟩ := bind_eq_ok written
      exact .inl ⟨name, value', stored⟩
  | index name position =>
      obtain ⟨index, _, updating⟩ := bind_eq_ok written
      obtain ⟨value', _, stored⟩ := bind_eq_ok updating
      exact .inr ⟨name, index, value', stored⟩

/-- A write keeps every name's storage and kind. -/
theorem Keeps.assign (keeps : store.Keeps fixed reference) {target : Target} {op : AssignOp}
    {expr : Expr} {line : Nat} (assigned : store.assign target op expr line = .ok store') :
    store'.Keeps fixed reference := by
  rcases assign_writes assigned with ⟨name, value, stored⟩ | ⟨name, index, value, stored⟩
  · -- a scalar write adds no name and leaves the arrays alone
    obtain ⟨_, rfl⟩ := set_ok stored
    refine keeps.of_same (fun name' held => ?_) fun _ => rfl
    simp only [Store.contains, Std.HashMap.contains_insert, Bool.or_eq_true] at held ⊢
    rcases held with held | held <;> simp [held]
  · obtain ⟨_, _, _, rfl⟩ := setElement_ok stored
    refine keeps.of_same (fun name' held => ?_) fun name' => ?_
    · simpa [Store.contains, Std.HashMap.contains_modify] using held
    · simp [Store.isArray, Std.HashMap.contains_modify]

end Store

/-- A property of the failure a run stops with, if it fails. -/
def Ending.Raises (property : Failure → Prop) : Ending → Prop
  | .done .. => True
  | .failed failure _ => property failure

theorem Ending.raises_of_exit {property : Failure → Prop} {ending ending' : Ending}
    (exits : ending.exit? = some ending') (raises : ending.Raises property) :
    ending'.Raises property := by
  cases ending with
  | done machine iterations flow =>
      cases flow <;> cases exits <;> trivial
  | failed failure count =>
      cases exits
      exact raises

/-! ## Admitted code -/

/-- Every occurrence of a name in `code` passes the check against
`reference`. -/
def Code.Admitted (fixed : String → Prop) (reference : Store) (code : Code) : Prop :=
  ∀ occurrence ∈ code.occurrences, reference.Admits fixed occurrence

namespace Code.Admitted

variable {fixed : String → Prop} {reference : Store} {code code' : Code}

theorem mono (admitted : code.Admitted fixed reference)
    (sub : code'.occurrences ⊆ code.occurrences) : code'.Admitted fixed reference :=
  fun occurrence mem => admitted occurrence (sub mem)

variable {init step : Option Stmt} {condition : Expr} {test : Option Expr} {body : List Stmt}
  {line : Nat} {stmt : Stmt} {more : List Stmt} {arms : List Branch} {elseBody : List Stmt}

theorem forInit (admitted : (Code.stmt (.forLoop init test step body line)).Admitted fixed reference) :
    (Code.part init).Admitted fixed reference :=
  admitted.mono fun _ mem => by
    simp only [Code.occurrences, Stmt.occurrences, List.mem_append] at mem ⊢
    grind

theorem forLoop (admitted : (Code.stmt (.forLoop init test step body line)).Admitted fixed reference) :
    (Code.forLoop test step body line).Admitted fixed reference :=
  admitted.mono fun _ mem => by
    simp only [Code.occurrences, Stmt.occurrences, List.mem_append] at mem ⊢
    grind

theorem forTest (admitted : (Code.forLoop test step body line).Admitted fixed reference) :
    ∀ expr ∈ test, ∀ occurrence ∈ expr.references, reference.Admits fixed occurrence := by
  intro expr mem occurrence listed
  obtain rfl := Option.mem_def.mp mem
  exact admitted occurrence (by simp [Code.occurrences, listed])

theorem forBody (admitted : (Code.forLoop test step body line).Admitted fixed reference) :
    (Code.body body).Admitted fixed reference :=
  admitted.mono fun _ mem => by
    simp only [Code.occurrences, List.mem_append] at mem ⊢
    grind

theorem forStep (admitted : (Code.forLoop test step body line).Admitted fixed reference) :
    (Code.part step).Admitted fixed reference :=
  admitted.mono fun _ mem => by
    simp only [Code.occurrences, List.mem_append] at mem ⊢
    grind

theorem whileCondition (admitted : (Code.whileLoop condition body line).Admitted fixed reference) :
    ∀ occurrence ∈ condition.references, reference.Admits fixed occurrence :=
  fun occurrence listed => admitted occurrence (by simp [Code.occurrences, listed])

theorem whileBody (admitted : (Code.whileLoop condition body line).Admitted fixed reference) :
    (Code.body body).Admitted fixed reference :=
  admitted.mono fun _ mem => by
    simp only [Code.occurrences, List.mem_append] at mem ⊢
    grind

theorem doCondition (admitted : (Code.doWhile body condition line).Admitted fixed reference) :
    ∀ occurrence ∈ condition.references, reference.Admits fixed occurrence :=
  fun occurrence listed => admitted occurrence (by simp [Code.occurrences, listed])

theorem doBody (admitted : (Code.doWhile body condition line).Admitted fixed reference) :
    (Code.body body).Admitted fixed reference :=
  admitted.mono fun _ mem => by
    simp only [Code.occurrences, List.mem_append] at mem ⊢
    grind

theorem head (admitted : (Code.body (stmt :: more)).Admitted fixed reference) :
    (Code.stmt stmt).Admitted fixed reference :=
  admitted.mono fun _ mem => by
    simp only [Code.occurrences, Stmt.bodyOccurrences, List.mem_append] at mem ⊢
    grind

theorem tail (admitted : (Code.body (stmt :: more)).Admitted fixed reference) :
    (Code.body more).Admitted fixed reference :=
  admitted.mono fun _ mem => by
    simp only [Code.occurrences, Stmt.bodyOccurrences, List.mem_append] at mem ⊢
    grind

theorem otherwise (admitted : (Code.branches line [] elseBody).Admitted fixed reference) :
    (Code.body elseBody).Admitted fixed reference :=
  admitted.mono fun _ mem => by
    simp only [Code.occurrences, Stmt.branchesOccurrences, List.mem_append] at mem ⊢
    grind

theorem armCondition
    (admitted : (Code.branches line (.mk condition body :: arms) elseBody).Admitted fixed reference) :
    ∀ occurrence ∈ condition.references, reference.Admits fixed occurrence :=
  fun occurrence listed =>
    admitted occurrence (by simp [Code.occurrences, Stmt.branchesOccurrences, listed])

theorem armBody
    (admitted : (Code.branches line (.mk condition body :: arms) elseBody).Admitted fixed reference) :
    (Code.body body).Admitted fixed reference :=
  admitted.mono fun _ mem => by
    simp only [Code.occurrences, Stmt.branchesOccurrences, List.mem_append] at mem ⊢
    grind

theorem otherArms
    (admitted : (Code.branches line (.mk condition body :: arms) elseBody).Admitted fixed reference) :
    (Code.branches line arms elseBody).Admitted fixed reference :=
  admitted.mono fun _ mem => by
    simp only [Code.occurrences, Stmt.branchesOccurrences, List.mem_append] at mem ⊢
    grind

end Code.Admitted

namespace Runs

variable {limits : Limits} {code : Code} {machine : Machine} {iterations : Nat} {ending : Ending}
  {fixed : String → Prop} {reference : Store}

/-- The run lemma for storage and kinds: a run of admitted code from a store
in line with the prepared one leaves a store in line with it. -/
theorem keeps (ran : Runs limits code machine iterations ending)
    (keeps : machine.store.Keeps fixed reference) (admitted : code.Admitted fixed reference) :
    ending.Leaves fun machine' => machine'.store.Keeps fixed reference := by
  induction ran with
  | @declare machine machine' iterations name value line declared =>
      obtain ⟨store, stored, rfl⟩ := Machine.declare_ok declared
      obtain ⟨initial, rfl, _, _⟩ := Store.declare_ok stored
      have admits : reference.Admits fixed (name, false) :=
        admitted _ (by simp [Code.occurrences, Stmt.occurrences])
      exact keeps.declare (Store.declareScalar_replaces initial) admits true
  | @declareArray machine iterations name size values line =>
      have admits : reference.Admits fixed (name, true) :=
        admitted _ (by simp [Code.occurrences, Stmt.occurrences])
      rw [Machine.declareArray_eq]
      exact keeps.declare (Store.declareArray_replaces _ _) admits true
  | assign assigned =>
      obtain ⟨store, stored, rfl⟩ := Machine.assign_ok assigned
      exact keeps.assign stored
  | print printed =>
      obtain ⟨rendered, _, _, rfl⟩ := Machine.print_ok printed
      exact keeps
  | breakLoop | continueLoop | returnValue | returnNothing | partNone | bodyNil | forEnds
  | whileEnds => exact keeps
  | declareFails | assignFails | printFails | returnFails | branchFails | forFails
  | forOverBudget | whileFails | whileOverBudget | doOverBudget | doFails => trivial
  | cond _ arms => exact arms keeps admitted
  | whileLoop _ loop | doWhile _ loop => exact loop keeps admitted
  | partSome _ ran => exact ran keeps admitted
  | forLoop _ _ initialized loop =>
      have initKeeps := initialized keeps admitted.forInit
      exact loop initKeeps admitted.forLoop
  | forInitStops _ _ initialized => exact initialized keeps admitted.forInit
  | bodyCons _ _ first rest => exact rest (first keeps admitted.head) admitted.tail
  | bodyStops _ _ first => exact first keeps admitted.head
  | branchesElse _ ran => exact ran keeps admitted.otherwise
  | branchTaken _ _ ran => exact ran keeps admitted.armBody
  | branchSkipped _ _ rest => exact rest keeps admitted.otherArms
  | forExits _ _ _ exits ran => exact Ending.leaves_of_exit exits (ran keeps admitted.forBody)
  | whileExits _ _ _ exits ran => exact Ending.leaves_of_exit exits (ran keeps admitted.whileBody)
  | doExits _ _ exits ran => exact Ending.leaves_of_exit exits (ran keeps admitted.doBody)
  | forStepStops _ _ _ _ _ _ ran stepped =>
      exact stepped (ran keeps admitted.forBody) admitted.forStep
  | forRepeats _ _ _ _ _ _ ran steppedOn loop =>
      have bodyKeeps := ran keeps admitted.forBody
      exact loop (steppedOn bodyKeeps admitted.forStep) admitted
  | whileRepeats _ _ _ _ _ ran loop => exact loop (ran keeps admitted.whileBody) admitted
  | doRepeats _ _ _ _ _ ran loop => exact loop (ran keeps admitted.doBody) admitted
  | doEnds _ _ _ _ ran => exact ran keeps admitted.doBody

/-- The run lemma for faults: a run of admitted code from a store in line
with the prepared one fails only as the check allows. -/
theorem allowed (ran : Runs limits code machine iterations ending)
    (keeps : machine.store.Keeps fixed reference) (admitted : code.Admitted fixed reference) :
    ending.Raises (Failure.Allowed fixed reference) := by
  induction ran with
  | declareFails refused =>
      obtain ⟨error, stored, rfl⟩ := Machine.declare_error refused
      refine Store.declare_allowed keeps (fun expr mem occurrence listed => admitted occurrence ?_)
        stored
      obtain rfl := Option.mem_def.mp mem
      simp [Code.occurrences, Stmt.occurrences, listed]
  | assignFails refused =>
      obtain ⟨error, stored, rfl⟩ := Machine.assign_error refused
      exact Store.assign_allowed keeps (fun occurrence listed => admitted occurrence listed) stored
  | printFails refused =>
      refine Machine.print_allowed keeps (fun arg mem occurrence listed => admitted occurrence ?_)
        refused
      simp only [Code.occurrences, Stmt.occurrences, List.mem_flatMap]
      exact ⟨arg, mem, listed⟩
  | returnFails refused =>
      exact eval_allowed keeps (fun occurrence listed => admitted occurrence
        (by simp [Code.occurrences, Stmt.occurrences, listed])) refused
  | branchFails refused => exact holds_allowed keeps admitted.armCondition refused
  | forFails refused => exact Exec.loopHolds_allowed keeps admitted.forTest refused
  | whileFails refused => exact holds_allowed keeps admitted.whileCondition refused
  | doFails _ bodyRan _ refused =>
      have bodyKeeps := bodyRan.keeps keeps admitted.doBody
      exact holds_allowed bodyKeeps admitted.doCondition refused
  | forOverBudget | whileOverBudget | doOverBudget => trivial
  | declare | declareArray | assign | print | breakLoop | continueLoop | returnValue
  | returnNothing | partNone | bodyNil | forEnds | whileEnds | doEnds => trivial
  | cond _ arms => exact arms keeps admitted
  | whileLoop _ loop | doWhile _ loop => exact loop keeps admitted
  | partSome _ ran => exact ran keeps admitted
  | forLoop initRan _ initialized loop =>
      exact loop (initRan.keeps keeps admitted.forInit) admitted.forLoop
  | forInitStops _ _ initialized => exact initialized keeps admitted.forInit
  | bodyCons firstRan _ first rest => exact rest (firstRan.keeps keeps admitted.head) admitted.tail
  | bodyStops _ _ first => exact first keeps admitted.head
  | branchesElse _ ran => exact ran keeps admitted.otherwise
  | branchTaken _ _ ran => exact ran keeps admitted.armBody
  | branchSkipped _ _ rest => exact rest keeps admitted.otherArms
  | forExits _ _ _ exits ran => exact Ending.raises_of_exit exits (ran keeps admitted.forBody)
  | whileExits _ _ _ exits ran => exact Ending.raises_of_exit exits (ran keeps admitted.whileBody)
  | doExits _ _ exits ran => exact Ending.raises_of_exit exits (ran keeps admitted.doBody)
  | forStepStops _ _ bodyRan _ _ _ _ stepped =>
      exact stepped (bodyRan.keeps keeps admitted.forBody) admitted.forStep
  | forRepeats _ _ bodyRan _ stepRan _ _ _ loop =>
      have bodyKeeps := bodyRan.keeps keeps admitted.forBody
      exact loop (stepRan.keeps bodyKeeps admitted.forStep) admitted
  | whileRepeats _ _ bodyRan _ _ _ loop =>
      exact loop (bodyRan.keeps keeps admitted.whileBody) admitted
  | doRepeats _ bodyRan _ _ _ _ loop =>
      exact loop (bodyRan.keeps keeps admitted.doBody) admitted

end Runs

/-! ## The walk admits every occurrence -/

theorem forM_ok {α ε : Type} {f : α → Except ε Unit} :
    ∀ {items : List α}, items.forM f = .ok () → ∀ item ∈ items, f item = .ok ()
  | [], _ => nofun
  | first :: more, checked => by
      simp only [List.forM] at checked
      obtain ⟨⟨⟩, firstChecked, moreChecked⟩ := bind_eq_ok checked
      intro item mem
      rcases List.mem_cons.mp mem with rfl | later
      · exact firstChecked
      · exact forM_ok moreChecked item later

/-- The names of `declared` whose declarations all have one kind. -/
def Stmt.OneKind (declared : List (String × Bool)) (name : String) : Prop :=
  ∀ asArray asArray', (name, asArray) ∈ declared → (name, asArray') ∈ declared → asArray = asArray'

namespace Binding

variable {declared : List (String × Bool)} {state state' state'' : State}
  {occurs occurs' : List (String × Bool)} {topLevel : Bool} {line : Nat}

/-- The walk's state for a program whose declarations are `declared`: every
name it has seen has storage, of the kind of one of the name's
declarations. -/
def State.Sound (declared : List (String × Bool)) (state : State) : Prop :=
  ∀ name, state.seen.contains name = true →
    state.store.contains name = true ∧ (name, state.store.isArray name) ∈ declared

theorem State.sound_empty : ({} : State).Sound declared := fun name seen => by
  simp at seen

/-- Every occurrence in `occurs` passed the check at `state`: its name was
seen, with its kind in the store. -/
def Checks (state : State) (occurs : List (String × Bool)) : Prop :=
  ∀ occurrence ∈ occurs,
    state.seen.contains occurrence.1 = true ∧ state.store.isArray occurrence.1 = occurrence.2

theorem Checks.append (first : Checks state occurs) (second : Checks state occurs') :
    Checks state (occurs ++ occurs') := fun occurrence mem => by
  rcases List.mem_append.mp mem with inFirst | inSecond
  · exact first occurrence inFirst
  · exact second occurrence inSecond

theorem checkName_checks {name : String} {asArray : Bool}
    (checked : checkName state line name asArray = .ok ()) : Checks state [(name, asArray)] := by
  intro occurrence mem
  obtain rfl := List.mem_singleton.mp mem
  unfold checkName at checked
  by_cases seen : state.seen.contains name = true
  · refine ⟨seen, ?_⟩
    cases asArray <;> cases kind : state.store.isArray name <;> simp_all
  · simp [seen] at checked

theorem checkExpr_checks {expr : Expr} (checked : checkExpr state line expr = .ok ()) :
    Checks state expr.references := by
  rintro ⟨name, asArray⟩ mem
  exact checkName_checks (forM_ok checked _ mem) _ (List.mem_singleton_self _)

/-- A walk from `state` to `state'` over code with occurrences `occurs`: it
ends sound, forgets no name it has seen, and every occurrence is one of the
program's declarations, of a name seen at the end. -/
structure Walked (declared : List (String × Bool)) (state state' : State)
    (occurs : List (String × Bool)) : Prop where
  sound : state'.Sound declared
  seen_grows : ∀ name, state.seen.contains name = true → state'.seen.contains name = true
  occurs_declared : ∀ occurrence ∈ occurs,
    occurrence ∈ declared ∧ state'.seen.contains occurrence.1 = true

namespace Walked

theorem refl (sound : state.Sound declared) : Walked declared state state [] :=
  ⟨sound, fun _ seen => seen, nofun⟩

theorem trans (first : Walked declared state state' occurs)
    (second : Walked declared state' state'' occurs') :
    Walked declared state state'' (occurs ++ occurs') where
  sound := second.sound
  seen_grows name seen := second.seen_grows name (first.seen_grows name seen)
  occurs_declared occurrence mem := by
    rcases List.mem_append.mp mem with inFirst | inSecond
    · obtain ⟨listed, seen⟩ := first.occurs_declared occurrence inFirst
      exact ⟨listed, second.seen_grows _ seen⟩
    · exact second.occurs_declared occurrence inSecond

/-- A step that only checks: each occurrence it checks is a declaration,
since the state it checks against is sound. -/
theorem of_checks (sound : state.Sound declared) (checks : Checks state occurs)
    (stored : state'.store = state.store) (seen : state'.seen = state.seen) :
    Walked declared state state' occurs where
  sound name seen' := by
    rw [stored]
    rw [seen] at seen'
    exact sound name seen'
  seen_grows name seen' := seen ▸ seen'
  occurs_declared occurrence mem := by
    obtain ⟨seen', kind⟩ := checks occurrence mem
    refine ⟨?_, seen ▸ seen'⟩
    have listed := (sound occurrence.1 seen').2
    rwa [kind] at listed

/-- A declaration: the walk records the name as seen, with storage of the
declared kind. -/
theorem declare (sound : state.Sound declared) {name : String} {base : Store} {slot : Slot}
    (replaced : state.store.Replaces base name slot) {reached : Bool}
    (marked : state'.store = base.mark name reached)
    (seen : state'.seen = state.seen.insert name)
    (listed : (name, (slot.elements?).isSome) ∈ declared) :
    Walked declared state state' [(name, (slot.elements?).isSome)] where
  sound name' seen' := by
    rw [seen, Std.HashSet.contains_insert] at seen'
    rw [marked, Store.mark_contains, Store.mark_isArray, replaced.isArray]
    by_cases same : name = name'
    · subst same
      exact ⟨replaced.contains, by simpa using listed⟩
    · have earlier : state.seen.contains name' = true := by simpa [same] using seen'
      obtain ⟨stored, kind⟩ := sound name' earlier
      exact ⟨replaced.contains_of stored, by simpa [same] using kind⟩
  seen_grows name' seen' := by
    rw [seen, Std.HashSet.contains_insert, seen']
    simp
  occurs_declared occurrence mem := by
    obtain rfl := List.mem_singleton.mp mem
    exact ⟨listed, by simp [seen]⟩

end Walked

theorem declare_checks {name : String} {value : Option Expr}
    (bound : declare topLevel state name value line = .ok state') :
    Checks state ((value.map Expr.references).getD []) := by
  cases value with
  | none => exact nofun
  | some expr =>
      simp only [declare] at bound
      obtain ⟨_, checked, _⟩ := bind_eq_ok bound
      exact checkExpr_checks checked

theorem declare_walked (sound : state.Sound declared) {name : String} {value : Option Expr}
    (bound : declare topLevel state name value line = .ok state')
    (listed : (name, false) ∈ declared) :
    Walked declared state state' ((value.map Expr.references).getD [] ++ [(name, false)]) := by
  have checked := Walked.of_checks sound (declare_checks bound) rfl rfl
  obtain ⟨isConstant, initial, rfl, _, _⟩ := declare_ok bound
  show Walked declared state _ (_ ++ [(name, ((Slot.scalar (Arith.wrap initial)).elements?).isSome)])
  exact checked.trans (Walked.declare sound (Store.declareScalar_replaces initial) rfl rfl listed)

theorem assign_checks {target : Target} {op : AssignOp} {value : Expr}
    (bound : bindStmt topLevel state (.assign target op value line) = .ok state') :
    Checks state (value.references ++ target.references) := by
  obtain ⟨_, valueChecked, afterValue⟩ := bind_eq_ok bound
  refine (checkExpr_checks valueChecked).append ?_
  cases target with
  | var name =>
      obtain ⟨_, nameChecked, _⟩ := bind_eq_ok afterValue
      exact checkName_checks nameChecked
  | index name position =>
      obtain ⟨_, nameChecked, afterName⟩ := bind_eq_ok afterValue
      obtain ⟨_, positionChecked, _⟩ := bind_eq_ok afterName
      exact (checkName_checks nameChecked).append (checkExpr_checks positionChecked)

theorem forLoop_checks {init step : Option Stmt} {condition : Option Expr} {body : List Stmt}
    {initState : State}
    (bound : bindStmt topLevel state (.forLoop init condition step body line) = .ok state')
    (initBound : bindPart topLevel state init = .ok initState) :
    Checks initState ((condition.map Expr.references).getD []) := by
  obtain ⟨initState', initBound', afterInit⟩ := bind_eq_ok bound
  rw [initBound] at initBound'
  cases initBound'
  cases condition with
  | none => exact nofun
  | some condition =>
      obtain ⟨_, checked, _⟩ := bind_eq_ok afterInit
      exact checkExpr_checks checked

theorem print_checks {format : String} {args : List Expr}
    (bound : bindStmt topLevel state (.print format args line) = .ok state') :
    Checks state (args.flatMap Expr.references) := by
  obtain ⟨_, checked, _⟩ := bind_eq_ok bound
  intro occurrence mem
  obtain ⟨arg, listed, inArg⟩ := List.mem_flatMap.mp mem
  exact checkExpr_checks (forM_ok checked arg listed) occurrence inArg

/-- The walk over one statement, one part of a `for`, one body and one
`if` chain: from a sound state, over code whose declarations are among
`declared`, it is a `Walked` step over the code's occurrences. -/
theorem walked (declared : List (String × Bool)) :
    (∀ topLevel state stmt state', bindStmt topLevel state stmt = .ok state' →
      state.Sound declared → stmt.declarations ⊆ declared →
      Walked declared state state' stmt.occurrences) ∧
    (∀ topLevel state part state', bindPart topLevel state part = .ok state' →
      state.Sound declared → Stmt.partDeclarations part ⊆ declared →
      Walked declared state state' (Stmt.partOccurrences part)) ∧
    (∀ state body state', bindBody state body = .ok state' →
      state.Sound declared → Stmt.bodyDeclarations body ⊆ declared →
      Walked declared state state' (Stmt.bodyOccurrences body)) ∧
    (∀ line state branches state', bindBranches line state branches = .ok state' →
      state.Sound declared → Stmt.branchesDeclarations branches ⊆ declared →
      Walked declared state state' (Stmt.branchesOccurrences branches)) := by
  apply bindStmt.mutual_induct
    (fun topLevel state stmt => ∀ state', bindStmt topLevel state stmt = .ok state' →
      state.Sound declared → stmt.declarations ⊆ declared →
      Walked declared state state' stmt.occurrences)
    (fun topLevel state part => ∀ state', bindPart topLevel state part = .ok state' →
      state.Sound declared → Stmt.partDeclarations part ⊆ declared →
      Walked declared state state' (Stmt.partOccurrences part))
    (fun state body => ∀ state', bindBody state body = .ok state' →
      state.Sound declared → Stmt.bodyDeclarations body ⊆ declared →
      Walked declared state state' (Stmt.bodyOccurrences body))
    (fun line state branches => ∀ state', bindBranches line state branches = .ok state' →
      state.Sound declared → Stmt.branchesDeclarations branches ⊆ declared →
      Walked declared state state' (Stmt.branchesOccurrences branches))
  · intro topLevel state name value line state' bound sound declaredIn
    simp only [Stmt.declarations, List.cons_subset] at declaredIn
    exact declare_walked sound bound declaredIn.1
  · intro topLevel name size values line store seen constant state' bound sound declaredIn
    cases bound
    simp only [Stmt.declarations, List.cons_subset] at declaredIn
    show Walked declared _ _
      [(name, ((Slot.array (Store.arrayContents values (arrayLength size values))).elements?).isSome)]
    exact Walked.declare sound (Store.declareArray_replaces _ _) rfl rfl declaredIn.1
  · intro topLevel state target op value line state' bound sound _
    have checks := assign_checks bound
    cases assign_ok bound
    exact Walked.of_checks sound checks rfl rfl
  · intro topLevel state branches elseBody line armsWalk elseWalk state' bound sound declaredIn
    simp only [Stmt.declarations, List.append_subset] at declaredIn
    obtain ⟨armsState, armsBound, elseBound⟩ := bind_eq_ok bound
    have arms := armsWalk armsState armsBound sound declaredIn.1
    exact arms.trans (elseWalk armsState state' elseBound arms.sound declaredIn.2)
  · intro topLevel state init condition step body line initWalk bodyWalk stepWalk state' bound sound
      declaredIn
    simp only [Stmt.declarations, List.append_subset] at declaredIn
    obtain ⟨⟨initIn, bodyIn⟩, stepIn⟩ := declaredIn
    obtain ⟨initState, bodyState, initBound, bodyBound, stepBound⟩ := forLoop_bound bound
    -- the condition is checked against the state after the initializer
    have initWalked := initWalk initState initBound sound initIn
    have conditionWalked :=
      Walked.of_checks initWalked.sound (forLoop_checks bound initBound) rfl rfl
    have bodyWalked := bodyWalk initState bodyState bodyBound initWalked.sound bodyIn
    have stepWalked := stepWalk bodyState state' stepBound bodyWalked.sound stepIn
    simp only [Stmt.occurrences]
    exact ((initWalked.trans conditionWalked).trans bodyWalked).trans stepWalked
  · intro topLevel state condition body line bodyWalk state' bound sound declaredIn
    obtain ⟨_, checked, bodyBound⟩ := bind_eq_ok bound
    have conditionWalked := Walked.of_checks sound (checkExpr_checks checked) rfl rfl
    exact conditionWalked.trans (bodyWalk state' bodyBound sound declaredIn)
  · intro topLevel state body condition line bodyWalk state' bound sound declaredIn
    -- the condition is checked against the state after the body
    obtain ⟨bodyState, bodyBound, afterBody⟩ := bind_eq_ok bound
    obtain ⟨_, checked, returned⟩ := bind_eq_ok afterBody
    cases returned
    have bodyWalked := bodyWalk _ bodyBound sound declaredIn
    exact bodyWalked.trans (Walked.of_checks bodyWalked.sound (checkExpr_checks checked) rfl rfl)
  · intro topLevel state format args line state' bound sound _
    have checks := print_checks bound
    cases print_bound bound
    exact Walked.of_checks sound checks rfl rfl
  · intro topLevel state line value state' bound sound _
    obtain ⟨_, checked, returned⟩ := bind_eq_ok bound
    cases returned
    exact Walked.of_checks sound (checkExpr_checks checked) rfl rfl
  · intro topLevel state line state' bound sound _
    cases bound
    exact Walked.refl sound
  · intro topLevel state line state' bound sound _
    cases bound
    exact Walked.refl sound
  · intro topLevel state line state' bound sound _
    cases bound
    exact Walked.refl sound
  · intro line state state' bound sound _
    cases bound
    exact Walked.refl sound
  · intro line state condition body more bodyWalk moreWalk state' bound sound declaredIn
    simp only [Stmt.branchesDeclarations, List.append_subset] at declaredIn
    obtain ⟨_, checked, afterCondition⟩ := bind_eq_ok bound
    obtain ⟨bodyState, bodyBound, moreBound⟩ := bind_eq_ok afterCondition
    have conditionWalked := Walked.of_checks sound (checkExpr_checks checked) rfl rfl
    have bodyWalked := bodyWalk bodyState bodyBound sound declaredIn.1
    exact (conditionWalked.trans bodyWalked).trans
      (moreWalk bodyState state' moreBound bodyWalked.sound declaredIn.2)
  · intro state state' bound sound _
    cases bound
    exact Walked.refl sound
  · intro state stmt more stmtWalk moreWalk state' bound sound declaredIn
    simp only [Stmt.bodyDeclarations, List.append_subset] at declaredIn
    obtain ⟨stmtState, stmtBound, moreBound⟩ := bind_eq_ok bound
    have first := stmtWalk stmtState stmtBound sound declaredIn.1
    exact first.trans (moreWalk stmtState state' moreBound first.sound declaredIn.2)
  · intro topLevel state stmt stmtWalk state' bound sound declaredIn
    exact stmtWalk state' bound sound declaredIn
  · intro topLevel state state' bound sound _
    cases bound
    exact Walked.refl sound

theorem bindTop_walked (body : List Stmt) (bound : bindTop state body = .ok state')
    (sound : state.Sound declared) (declaredIn : Stmt.bodyDeclarations body ⊆ declared) :
    Walked declared state state' (Stmt.bodyOccurrences body) := by
  induction body generalizing state with
  | nil =>
      cases bound
      exact Walked.refl sound
  | cons stmt more ih =>
      simp only [Stmt.bodyDeclarations, List.append_subset] at declaredIn
      obtain ⟨stmtState, stmtBound, moreBound⟩ := bind_eq_ok bound
      have first := (walked declared).1 true state stmt stmtState stmtBound sound declaredIn.1
      exact first.trans (ih moreBound first.sound declaredIn.2)

end Binding

/-! ## The check is sound for the run -/

theorem Stmt.oneKind_of_nodup {declared : List (String × Bool)}
    (distinct : (declared.map Prod.fst).Nodup) (name : String) : Stmt.OneKind declared name := by
  intro asArray asArray' first second
  have same := List.inj_on_of_nodup_map distinct first second rfl
  exact (Prod.mk.inj same).2

/-- The prepared store admits every occurrence of a name in the program,
the names whose declarations all have one kind being the fixed ones. -/
theorem Program.bind_admitted {program : Program} {store : Store}
    (accepted : program.bind = .ok store) :
    (Code.body program.body).Admitted (Stmt.OneKind (Stmt.bodyDeclarations program.body)) store := by
  obtain ⟨state, bound, returned⟩ := bind_eq_ok accepted
  cases returned
  have walked := Binding.bindTop_walked program.body bound Binding.State.sound_empty
    (List.Subset.refl _)
  rintro ⟨name, asArray⟩ mem
  obtain ⟨declaredAs, seen⟩ := walked.occurs_declared _ mem
  obtain ⟨stored, kindDeclared⟩ := walked.sound name seen
  exact ⟨stored, fun oneKind => oneKind _ _ kindDeclared declaredAs⟩

/-- A run of an accepted program fails only as the check allows. -/
theorem Program.execute_allowed {program : Program} {store : Store}
    (accepted : program.bind = .ok store) {limits : Limits} {failure : Failure}
    (failed : execute limits store program.body = .error failure) :
    failure.Allowed (Stmt.OneKind (Stmt.bodyDeclarations program.body)) store := by
  obtain ⟨ending, ran⟩ := Runs.body_exists limits (Machine.start store) 0 program.body
  rw [execute_eq_of_runs ran] at failed
  have raises := ran.allowed (Store.keeps_refl _ store) (Program.bind_admitted accepted)
  cases ending with
  | done machine iterations flow =>
      -- a jump that escapes the body fails as a host error, which the check does not govern
      cases flow <;> cases failed <;> trivial
  | failed failure' count =>
      cases failed
      exact raises

/-- The binder's check holds for every access of the run of an accepted
program: an access to an undeclared name names a name with storage whose
declaration has not run, and when no name is declared twice, no access
uses a name as the other kind. -/
theorem Program.reference_check_sound {program : Program} {store : Store}
    (accepted : program.bind = .ok store) (limits : Limits) :
    (∀ name reason line,
      execute limits store program.body = .error (.runtime ⟨.undeclared name reason, line⟩) →
        reason = .neverExecuted ∧ store.contains name = true) ∧
    (((Stmt.bodyDeclarations program.body).map Prod.fst).Nodup → ∀ name line,
      execute limits store program.body ≠ .error (.runtime ⟨.arrayAsValue name, line⟩) ∧
      execute limits store program.body ≠ .error (.runtime ⟨.notAnArray name, line⟩) ∧
      execute limits store program.body ≠ .error (.runtime ⟨.arrayAsWhole name, line⟩)) := by
  refine ⟨fun name reason line failed => Program.execute_allowed accepted failed, ?_⟩
  intro distinct name line
  have fixed := Stmt.oneKind_of_nodup distinct name
  refine ⟨fun failed => ?_, fun failed => ?_, fun failed => ?_⟩
  all_goals exact Program.execute_allowed accepted failed fixed

/-- The check passes a use after a nested declaration that never runs. -/
theorem Program.reference_check_sound_nested :
    let body := [Stmt.cond [⟨.int 0, [.decl "x" (some (.int 1)) 2]⟩] [] 2,
      .print "%d" [.var "x"] 3]
    let store := Store.empty.declareScalar "x" 0 false
    (⟨["stdio.h"], body⟩ : Program).bind = .ok store ∧
      ((Stmt.bodyDeclarations body).map Prod.fst).Nodup ∧
      (∀ name reason line,
        execute {} store body = .error (.runtime ⟨.undeclared name reason, line⟩) →
          reason = .neverExecuted ∧ store.contains name = true) ∧
      (((Stmt.bodyDeclarations body).map Prod.fst).Nodup → ∀ name line,
        execute {} store body ≠ .error (.runtime ⟨.arrayAsValue name, line⟩) ∧
        execute {} store body ≠ .error (.runtime ⟨.notAnArray name, line⟩) ∧
        execute {} store body ≠ .error (.runtime ⟨.arrayAsWhole name, line⟩)) := by
  intro body store
  have accepted : (⟨["stdio.h"], body⟩ : Program).bind = .ok store := by
    simp only [body, store, Program.bind, Binding.bindTop, Binding.bindStmt, Binding.bindBranches,
      Binding.bindBody, Binding.declare, Binding.checkExpr, Binding.checkName, Expr.references,
      Store.isArray, Store.declareScalar, Store.mark, Store.empty, List.forM, Binding.foldable,
      Bind.bind, Except.bind, pure, Except.pure]
    simp
  have distinct : ((Stmt.bodyDeclarations body).map Prod.fst).Nodup := by
    simp [body, Stmt.bodyDeclarations, Stmt.declarations, Stmt.branchesDeclarations]
  exact ⟨accepted, distinct, Program.reference_check_sound accepted {}⟩

end ClassroomC
