import Std.Data.HashMap
import Std.Data.HashSet
import ClassroomC.Arith
import ClassroomC.Error
/-!
# The variable store

A store keeps its scalars and its arrays in two maps, and the names whose
declaration has run in a set. Declaring a name as a scalar drops any array
of that name, and the other way round. Every stored value is a word: values
are wrapped on the way in.

A name can have storage before its declaration has run: storage is set up
for every declaration before the program starts, and only the names whose
declaration has run are *declared*. Reads and writes of a name that is not
declared fail, and say whether the name has storage at all.

The store is read and written by its methods (`Store.Method`). A method runs
its steps in order and may raise, and like a method of a mutable object it
keeps what it wrote before it raised. The evaluator and the executor take a
method's answer (`Method.answer`) or the store it leaves (`Method.commit`);
a run that raises ends there, so they never see what a raising method left.
-/

namespace ClassroomC

/-- The storage of one variable, as a snapshot shows it. -/
inductive Slot where
  | scalar (value : Int)
  | array (values : Array Int)
  deriving Repr, BEq, Inhabited

/-- Variables: the scalars, the arrays, and the names whose declaration has
run. -/
structure Store where
  scalars : Std.HashMap String Int := {}
  arrays : Std.HashMap String (Array Int) := {}
  declared : Std.HashSet String := {}

namespace Store

/-- The empty store. -/
def empty : Store := {}

/-- Whether `name` has storage, scalar or array, declared or not. -/
def contains (store : Store) (name : String) : Bool :=
  store.scalars.contains name || store.arrays.contains name

/-- Whether `name` has array storage, declared or not. -/
def isArray (store : Store) (name : String) : Bool :=
  store.arrays.contains name

/-- Record whether the declaration of `name` has run. -/
def mark (store : Store) (name : String) (reached : Bool) : Store :=
  let ⟨scalars, arrays, declared⟩ := store
  ⟨scalars, arrays, if reached then declared.insert name else declared.erase name⟩

/-- Make `name` a scalar holding `value`, dropping any array of that name.
`reached` says whether its declaration has run. -/
def declareScalar (store : Store) (name : String) (value : Int) (reached : Bool) : Store :=
  let ⟨scalars, arrays, declared⟩ := store
  Store.mark ⟨scalars.insert name (Arith.wrap value), arrays.erase name, declared⟩ name reached

/-- The contents of a new array: the wrapped `values`, padded with zeros to
`length`. A shorter `length` keeps all the values. -/
def arrayContents (values : List Int) (length : Nat) : Array Int :=
  (values.map Arith.wrap).toArray ++ Array.replicate (length - values.length) 0

/-- Make `name` an array, dropping any scalar of that name. -/
def declareArray (store : Store) (name : String) (values : List Int) (length : Nat)
    (reached : Bool) : Store :=
  let ⟨scalars, arrays, declared⟩ := store
  Store.mark ⟨scalars.erase name, arrays.insert name (arrayContents values length), declared⟩
    name reached

/-- Succeed when `name` is declared; otherwise say why not. -/
def checkDeclared (store : Store) (name : String) (line : Option Nat) : Except RuntimeError Unit :=
  if store.declared.contains name then .ok ()
  else if store.contains name then .error ⟨.undeclared name .neverExecuted, line⟩
  else .error ⟨.undeclared name .plain, line⟩

/-- The valid position `index` of an array of `length` elements. -/
def position (name : String) (index : Int) (length : Nat) (line : Option Nat) :
    Except RuntimeError Nat :=
  if 0 ≤ index ∧ index < length then .ok index.toNat
  else .error ⟨.indexOutOfRange name index length, line⟩

/-- A method of the store: it reads and writes the store in order and may
raise, keeping what it wrote before it raised. -/
abbrev Method (α : Type) := EStateM RuntimeError Store α

namespace Method

/-- Raise unless `name` is declared. -/
def checkDeclared (name : String) (line : Option Nat) : Method Unit := do
  MonadExcept.ofExcept ((← getThe Store).checkDeclared name line)

/-- The value of the scalar `name`. -/
def get (name : String) (line : Option Nat) : Method Int := do
  checkDeclared name line
  let store ← getThe Store
  match store.scalars[name]? with
  | some value => pure value
  | none =>
    if store.arrays.contains name then throw ⟨.arrayAsValue name, line⟩
    else throw ⟨.undeclared name .plain, line⟩

/-- Store `value`, wrapped, in the scalar `name`. -/
def set (name : String) (value : Int) (line : Option Nat) : Method Unit := do
  checkDeclared name line
  let store ← getThe Store
  if !store.scalars.contains name then
    if store.arrays.contains name then throw ⟨.arrayAsWhole name, line⟩
    else throw ⟨.undeclared name .plain, line⟩
  -- taking the store apart leaves the map one owner, so it is updated in place
  modifyThe Store fun ⟨scalars, arrays, declared⟩ =>
    ⟨scalars.insert name (Arith.wrap value), arrays, declared⟩

/-- The elements of the array `name`. -/
def array (name : String) (line : Option Nat) : Method (Array Int) := do
  checkDeclared name line
  let store ← getThe Store
  match store.arrays[name]? with
  | some values => pure values
  | none =>
    if store.scalars.contains name then throw ⟨.notAnArray name, line⟩
    else throw ⟨.undeclared name .plain, line⟩

/-- The element at `index` of the array `name`. -/
def getElement (name : String) (index : Int) (line : Option Nat) : Method Int := do
  let values ← array name line
  let position ← MonadExcept.ofExcept (Store.position name index values.size line)
  pure (values.getD position 0)

/-- Store `value`, wrapped, at `index` of the array `name`. -/
def setElement (name : String) (index value : Int) (line : Option Nat) : Method Unit := do
  let values ← array name line
  let position ← MonadExcept.ofExcept (Store.position name index values.size line)
  modifyThe Store fun ⟨scalars, arrays, declared⟩ =>
    ⟨scalars, arrays.modify name (·.set! position (Arith.wrap value)), declared⟩

/-- The answer of `method` on `store`, without the store it leaves. -/
def answer {α : Type} (method : Method α) (store : Store) : Except RuntimeError α :=
  match method.run store with
  | .ok value _ => .ok value
  | .error error _ => .error error

/-- The store `method` leaves, or the error it raises. -/
def commit (method : Method Unit) (store : Store) : Except RuntimeError Store :=
  match method.run store with
  | .ok () store' => .ok store'
  | .error error _ => .error error

end Method

/-- The value of the scalar `name`. -/
def get (store : Store) (name : String) (line : Option Nat) : Except RuntimeError Int :=
  (Method.get name line).answer store

/-- Store `value`, wrapped, in the scalar `name`. -/
def set (store : Store) (name : String) (value : Int) (line : Option Nat) :
    Except RuntimeError Store :=
  (Method.set name value line).commit store

/-- The elements of the array `name`. -/
def arrayOf (store : Store) (name : String) (line : Option Nat) : Except RuntimeError (Array Int) :=
  (Method.array name line).answer store

/-- The element at `index` of the array `name`. -/
def getElement (store : Store) (name : String) (index : Int) (line : Option Nat) :
    Except RuntimeError Int :=
  (Method.getElement name index line).answer store

/-- Store `value`, wrapped, at `index` of the array `name`. -/
def setElement (store : Store) (name : String) (index : Int) (value : Int) (line : Option Nat) :
    Except RuntimeError Store :=
  (Method.setElement name index value line).commit store

/-- Every variable with its storage, in name order. A name in both maps
would show its array. -/
def snapshot (store : Store) : List (String × Slot) :=
  let scalars := store.scalars.toList.filterMap fun (name, value) =>
    if store.arrays.contains name then none else some (name, Slot.scalar value)
  let arrays := store.arrays.toList.map fun (name, values) => (name, Slot.array values)
  (scalars ++ arrays).mergeSort fun a b => decide (a.1 ≤ b.1)

/-- The declared names, in order. -/
def declaredNames (store : Store) : List String :=
  store.declared.toList.mergeSort fun a b => decide (a ≤ b)

/-! ## What each method does

Each method is described by the result of running it: a read answers and
leaves the store as it was, and a write either leaves the store it built or
raises and leaves the store as it was, since it checks everything before
it writes. -/

/-- The result of a method that answers as `result` does and leaves `store`
as it was. -/
def leaving {α : Type} (result : Except RuntimeError α) (store : Store) :
    EStateM.Result RuntimeError Store α :=
  match result with
  | .ok value => .ok value store
  | .error error => .error error store

/-- The result of a method that leaves the store `result` holds, or raises
its error and leaves `store` as it was. -/
def committed (result : Except RuntimeError Store) (store : Store) :
    EStateM.Result RuntimeError Store Unit :=
  match result with
  | .ok store' => .ok () store'
  | .error error => .error error store

variable {name : String} {line : Option Nat}

namespace Method

@[simp] theorem run_getThe (store : Store) :
    (getThe Store : Method Store).run store = .ok store store :=
  rfl

@[simp] theorem run_ofExcept {α : Type} (result : Except RuntimeError α) (store : Store) :
    (MonadExcept.ofExcept result : Method α).run store = leaving result store := by
  cases result <;> rfl

theorem answer_of_run {α : Type} {method : Method α} {store : Store} {result : Except RuntimeError α}
    (ran : method.run store = leaving result store) : method.answer store = result := by
  unfold answer
  rw [ran]
  cases result <;> rfl

theorem commit_of_run {method : Method Unit} {store : Store} {result : Except RuntimeError Store}
    (ran : method.run store = committed result store) : method.commit store = result := by
  unfold commit
  rw [ran]
  cases result <;> rfl

theorem checkDeclared_run (store : Store) :
    (checkDeclared name line).run store = leaving (store.checkDeclared name line) store := by
  unfold checkDeclared
  simp only [EStateM.run_bind, run_getThe, run_ofExcept]

theorem get_run (store : Store) :
    (get name line).run store =
      leaving (do
        store.checkDeclared name line
        match store.scalars[name]? with
        | some value => pure value
        | none =>
          throw (if store.arrays.contains name then ⟨.arrayAsValue name, line⟩
            else ⟨.undeclared name .plain, line⟩)) store := by
  unfold get
  simp only [EStateM.run_bind, checkDeclared_run, run_getThe]
  cases store.checkDeclared name line with
  | error error => rfl
  | ok =>
      dsimp only [leaving]
      cases store.scalars[name]? with
      | some value => rfl
      | none => cases store.arrays.contains name <;> rfl

theorem set_run (store : Store) (value : Int) :
    (set name value line).run store =
      committed (do
        store.checkDeclared name line
        if store.scalars.contains name then
          pure ⟨store.scalars.insert name (Arith.wrap value), store.arrays, store.declared⟩
        else
          throw (if store.arrays.contains name then ⟨.arrayAsWhole name, line⟩
            else ⟨.undeclared name .plain, line⟩)) store := by
  unfold set
  simp only [EStateM.run_bind, checkDeclared_run, run_getThe]
  cases store.checkDeclared name line with
  | error error => rfl
  | ok =>
      dsimp only [leaving]
      cases store.scalars.contains name with
      | true => rfl
      | false => cases store.arrays.contains name <;> rfl

theorem array_run (store : Store) :
    (array name line).run store =
      leaving (do
        store.checkDeclared name line
        match store.arrays[name]? with
        | some values => pure values
        | none =>
          throw (if store.scalars.contains name then ⟨.notAnArray name, line⟩
            else ⟨.undeclared name .plain, line⟩)) store := by
  unfold array
  simp only [EStateM.run_bind, checkDeclared_run, run_getThe]
  cases store.checkDeclared name line with
  | error error => rfl
  | ok =>
      dsimp only [leaving]
      cases store.arrays[name]? with
      | some values => rfl
      | none => cases store.scalars.contains name <;> rfl

end Method

/-! ### The store's functions, in the error monad -/

theorem get_eq (store : Store) :
    store.get name line = (do
      store.checkDeclared name line
      match store.scalars[name]? with
      | some value => pure value
      | none =>
        throw (if store.arrays.contains name then ⟨.arrayAsValue name, line⟩
          else ⟨.undeclared name .plain, line⟩)) :=
  Method.answer_of_run (Method.get_run store)

theorem set_eq (store : Store) (value : Int) :
    store.set name value line = (do
      store.checkDeclared name line
      if store.scalars.contains name then
        pure ⟨store.scalars.insert name (Arith.wrap value), store.arrays, store.declared⟩
      else
        throw (if store.arrays.contains name then ⟨.arrayAsWhole name, line⟩
          else ⟨.undeclared name .plain, line⟩)) :=
  Method.commit_of_run (Method.set_run store value)

theorem arrayOf_eq (store : Store) :
    store.arrayOf name line = (do
      store.checkDeclared name line
      match store.arrays[name]? with
      | some values => pure values
      | none =>
        throw (if store.scalars.contains name then ⟨.notAnArray name, line⟩
          else ⟨.undeclared name .plain, line⟩)) :=
  Method.answer_of_run (Method.array_run store)

namespace Method

theorem array_readOnly (store : Store) :
    (array name line).run store = leaving (store.arrayOf name line) store := by
  rw [array_run, Store.arrayOf_eq]

theorem getElement_run (store : Store) (index : Int) :
    (getElement name index line).run store =
      leaving (do
        let values ← store.arrayOf name line
        let position ← Store.position name index values.size line
        pure (values.getD position 0)) store := by
  unfold getElement
  simp only [EStateM.run_bind, array_readOnly]
  cases store.arrayOf name line with
  | error error => rfl
  | ok values =>
      dsimp only [leaving, bind, Except.bind]
      simp only [run_ofExcept]
      cases Store.position name index values.size line <;> rfl

theorem setElement_run (store : Store) (index value : Int) :
    (setElement name index value line).run store =
      committed (do
        let values ← store.arrayOf name line
        let position ← Store.position name index values.size line
        pure ⟨store.scalars, store.arrays.modify name (·.set! position (Arith.wrap value)),
          store.declared⟩) store := by
  unfold setElement
  simp only [EStateM.run_bind, array_readOnly]
  cases store.arrayOf name line with
  | error error => rfl
  | ok values =>
      dsimp only [leaving, bind, Except.bind]
      simp only [run_ofExcept]
      cases Store.position name index values.size line <;> rfl

end Method

theorem getElement_eq (store : Store) (index : Int) :
    store.getElement name index line = (do
      let values ← store.arrayOf name line
      let position ← Store.position name index values.size line
      pure (values.getD position 0)) :=
  Method.answer_of_run (Method.getElement_run store index)

theorem setElement_eq (store : Store) (index value : Int) :
    store.setElement name index value line = (do
      let values ← store.arrayOf name line
      let position ← Store.position name index values.size line
      pure ⟨store.scalars, store.arrays.modify name (·.set! position (Arith.wrap value)),
        store.declared⟩) :=
  Method.commit_of_run (Method.setElement_run store index value)

namespace Method

end Method

/-! ### What a successful call finds and leaves -/

/-- A successful read of a scalar finds it held under `name`. -/
theorem get_ok {store : Store} {value : Int} (read : store.get name line = .ok value) :
    store.scalars[name]? = some value := by
  rw [Store.get_eq] at read
  cases checked : store.checkDeclared name line with
  | error error => simp [checked, bind, Except.bind] at read
  | ok passed =>
      simp only [checked, bind, Except.bind] at read
      split at read
      · next held =>
          cases read
          exact held
      · cases read

/-- A successful read of an array finds it held under `name`. -/
theorem arrayOf_ok {store : Store} {values : Array Int}
    (found : store.arrayOf name line = .ok values) : store.arrays[name]? = some values := by
  rw [Store.arrayOf_eq] at found
  cases checked : store.checkDeclared name line with
  | error error => simp [checked, bind, Except.bind] at found
  | ok passed =>
      simp only [checked, bind, Except.bind] at found
      split at found
      · next held =>
          cases found
          exact held
      · cases found

/-- A successful write of a scalar finds a scalar there and stores the
wrapped value in it. -/
theorem set_ok {store store' : Store} {value : Int}
    (stored : store.set name value line = .ok store') :
    store.scalars.contains name = true ∧
      store' = ⟨store.scalars.insert name (Arith.wrap value), store.arrays, store.declared⟩ := by
  rw [Store.set_eq] at stored
  cases checked : store.checkDeclared name line with
  | error error => simp [checked, bind, Except.bind] at stored
  | ok passed =>
      simp only [checked, bind, Except.bind] at stored
      split at stored
      · next found =>
          cases stored
          exact ⟨found, rfl⟩
      · cases stored

/-- A successful write of an element finds an array there and writes the
wrapped value at a position of it. -/
theorem setElement_ok {store store' : Store} {index value : Int}
    (stored : store.setElement name index value line = .ok store') :
    ∃ values position, store.arrays[name]? = some values ∧
      store' = ⟨store.scalars, store.arrays.modify name (·.set! position (Arith.wrap value)),
        store.declared⟩ := by
  rw [Store.setElement_eq] at stored
  cases found : store.arrayOf name line with
  | error error => simp [found, bind, Except.bind] at stored
  | ok values =>
      simp only [found, bind, Except.bind] at stored
      cases placed : Store.position name index values.size line with
      | error error => simp [placed] at stored
      | ok position =>
          simp only [placed] at stored
          cases stored
          exact ⟨values, position, arrayOf_ok found, rfl⟩

/-! ### Maps -/

theorem contains_congr {β : Type} {map map' : Std.HashMap String β} {key : String}
    (same : map'[key]? = map[key]?) : map'.contains key = map.contains key := by
  rw [← Std.HashMap.isSome_getElem?_eq_contains, same, Std.HashMap.isSome_getElem?_eq_contains]

/-! ### Declarations -/

variable {store : Store} {reached : Bool}

@[simp] theorem mark_scalars : (store.mark name reached).scalars = store.scalars := rfl

@[simp] theorem mark_arrays : (store.mark name reached).arrays = store.arrays := rfl

@[simp] theorem mark_declared :
    (store.mark name reached).declared =
      if reached then store.declared.insert name else store.declared.erase name := rfl

@[simp] theorem declareScalar_scalars {value : Int} :
    (store.declareScalar name value reached).scalars = store.scalars.insert name (Arith.wrap value) :=
  rfl

@[simp] theorem declareScalar_arrays {value : Int} :
    (store.declareScalar name value reached).arrays = store.arrays.erase name := rfl

@[simp] theorem declareScalar_declared {value : Int} :
    (store.declareScalar name value reached).declared =
      if reached then store.declared.insert name else store.declared.erase name := rfl

@[simp] theorem declareArray_scalars {values : List Int} {length : Nat} :
    (store.declareArray name values length reached).scalars = store.scalars.erase name := rfl

@[simp] theorem declareArray_arrays {values : List Int} {length : Nat} :
    (store.declareArray name values length reached).arrays =
      store.arrays.insert name (arrayContents values length) := rfl

@[simp] theorem declareArray_declared {values : List Int} {length : Nat} :
    (store.declareArray name values length reached).declared =
      if reached then store.declared.insert name else store.declared.erase name := rfl

end Store

end ClassroomC
