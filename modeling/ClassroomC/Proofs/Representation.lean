import Mathlib.Algebra.Group.Int.Defs
import ClassroomC.Store

/-!
# The store's representation invariant

A store answers seven calls: the two declarations, the two reads, the two
writes, and the snapshot. Each call runs as a method of the store, and a
sequence of calls goes on from the store each call leaves, the store left
by a call that raises included.

The methods check everything before they write, so a call that raises
leaves the store as it was (`Call.method_run`). From the empty store, after
any sequence of calls, no name is a scalar and an array at once, every
declared name has storage, and every value held is a word. An array keeps
its length until it is declared again, and a declaration gives it the
wrapped values first, then zeros up to the length asked for.
-/

namespace ClassroomC

namespace Arith

/-- A value of the C `int`: an integer in `[-2^31, 2^31)`. -/
def IsWord (value : Int) : Prop :=
  -2 ^ 31 ≤ value ∧ value < 2 ^ 31

theorem isWord_wrap (value : Int) : IsWord (wrap value) := by
  have bounds := wrap_mem value
  simp only [minWord, maxWord] at bounds
  exact ⟨by omega, by omega⟩

end Arith

namespace Slot

/-- Every value the slot holds is a word. -/
def Words : Slot → Prop
  | .scalar value => Arith.IsWord value
  | .array values => ∀ value ∈ values, Arith.IsWord value

/-- The value of a scalar slot. -/
def value? : Slot → Option Int
  | .scalar value => some value
  | .array _ => none

/-- The elements of an array slot. -/
def elements? : Slot → Option (Array Int)
  | .scalar _ => none
  | .array values => some values

end Slot

namespace Store

/-- The representation invariant of a store: no name is both a scalar and an
array, every declared name has storage, and every value held is a word. -/
structure WellFormed (store : Store) : Prop where
  disjoint : ∀ name, store.scalars.contains name = true → store.arrays.contains name = false
  declared_stored : ∀ name, store.declared.contains name = true → store.contains name = true
  scalar_words : ∀ (name : String) (value : Int), store.scalars[name]? = some value →
    Arith.IsWord value
  array_words : ∀ (name : String) (values : Array Int), store.arrays[name]? = some values →
    ∀ value ∈ values, Arith.IsWord value

theorem empty_wellFormed : Store.empty.WellFormed where
  disjoint name held := by simp [Store.empty] at held
  declared_stored name marked := by simp [Store.empty] at marked
  scalar_words name value held := by simp [Store.empty] at held
  array_words name values held := by simp [Store.empty] at held

/-! ## The calls -/

/-- A call on the store, with its arguments. Reads are calls too: they may
raise. -/
inductive Call where
  | declareScalar (name : String) (value : Int) (reached : Bool)
  | declareArray (name : String) (values : List Int) (length : Nat) (reached : Bool)
  | get (name : String) (line : Option Nat)
  | set (name : String) (value : Int) (line : Option Nat)
  | getElement (name : String) (index : Int) (line : Option Nat)
  | setElement (name : String) (index value : Int) (line : Option Nat)
  | snapshot

namespace Call

/-- The method a call runs. A read runs for the error it may raise; its
answer is dropped. -/
def method : Call → Method Unit
  | declareScalar name value reached => modifyThe Store (·.declareScalar name value reached)
  | declareArray name values length reached =>
    modifyThe Store (·.declareArray name values length reached)
  | get name line => Method.get name line >>= fun _ => pure ()
  | set name value line => Method.set name value line
  | getElement name index line => Method.getElement name index line >>= fun _ => pure ()
  | setElement name index value line => Method.setElement name index value line
  | snapshot => (Store.snapshot <$> getThe Store) >>= fun _ => pure ()

/-- What a call does to a store: the store it leaves when it answers, or the
error it raises. -/
def outcome (store : Store) : Call → Except RuntimeError Store
  | declareScalar name value reached => .ok (store.declareScalar name value reached)
  | declareArray name values length reached => .ok (store.declareArray name values length reached)
  | get name line => (store.get name line).map fun _ => store
  | set name value line => store.set name value line
  | getElement name index line => (store.getElement name index line).map fun _ => store
  | setElement name index value line => store.setElement name index value line
  | snapshot => .ok store

end Call

variable {store store' : Store} {name name' : String} {line : Option Nat}

/-- `store'` is `store` with `name` holding `slot` alone: every other name
keeps its storage, and the marks are kept. -/
structure Replaces (store store' : Store) (name : String) (slot : Slot) : Prop where
  declared : store'.declared = store.declared
  scalars_other : ∀ name', name' ≠ name → store'.scalars[name']? = store.scalars[name']?
  arrays_other : ∀ name', name' ≠ name → store'.arrays[name']? = store.arrays[name']?
  scalar_at : store'.scalars[name]? = slot.value?
  array_at : store'.arrays[name]? = slot.elements?

/-- After a replacement, `name` has storage, of the kind of its slot. -/
theorem Replaces.contains {slot : Slot} (replaces : store.Replaces store' name slot) :
    store'.contains name = true := by
  unfold Store.contains
  rw [← Std.HashMap.isSome_getElem?_eq_contains, ← Std.HashMap.isSome_getElem?_eq_contains,
    replaces.scalar_at, replaces.array_at]
  cases slot <;> rfl

/-- A replacement keeps storage wherever there was storage. -/
theorem Replaces.contains_of {slot : Slot} (replaces : store.Replaces store' name slot)
    (stored : store.contains name' = true) : store'.contains name' = true := by
  by_cases same : name' = name
  · subst same
    exact replaces.contains
  · unfold Store.contains at stored ⊢
    rw [contains_congr (replaces.scalars_other name' same),
      contains_congr (replaces.arrays_other name' same)]
    exact stored

/-- After a replacement, `name` is an array just when its slot is one, and
every other name is an array just when it was. -/
theorem Replaces.isArray {slot : Slot} (replaces : store.Replaces store' name slot)
    (name' : String) :
    store'.isArray name' = if name = name' then slot.elements?.isSome else store.isArray name' := by
  unfold Store.isArray
  split
  · next same =>
      subst same
      rw [← Std.HashMap.isSome_getElem?_eq_contains, replaces.array_at]
  · next other => exact contains_congr (replaces.arrays_other name' (Ne.symm other))

@[simp] theorem mark_contains {reached : Bool} :
    (store.mark name reached).contains name' = store.contains name' := rfl

@[simp] theorem mark_isArray {reached : Bool} :
    (store.mark name reached).isArray name' = store.isArray name' := rfl

theorem WellFormed.replace (wf : store.WellFormed) (slot : Slot) (words : slot.Words)
    (replaces : store.Replaces store' name slot) : store'.WellFormed where
  disjoint name' held := by
    by_cases same : name' = name
    · subst same
      rw [← Std.HashMap.isSome_getElem?_eq_contains, replaces.scalar_at] at held
      rw [← Std.HashMap.isSome_getElem?_eq_contains, replaces.array_at]
      cases slot with
      | scalar value => rfl
      | array values => cases held
    · rw [contains_congr (replaces.scalars_other name' same)] at held
      rw [contains_congr (replaces.arrays_other name' same)]
      exact wf.disjoint name' held
  declared_stored name' marked := by
    by_cases same : name' = name
    · subst same
      exact replaces.contains
    · rw [replaces.declared] at marked
      unfold Store.contains
      rw [contains_congr (replaces.scalars_other name' same),
        contains_congr (replaces.arrays_other name' same)]
      exact wf.declared_stored name' marked
  scalar_words name' value held := by
    by_cases same : name' = name
    · subst same
      rw [replaces.scalar_at] at held
      cases slot with
      | scalar value' =>
          cases held
          exact words
      | array values => cases held
    · rw [replaces.scalars_other name' same] at held
      exact wf.scalar_words name' value held
  array_words name' values held := by
    by_cases same : name' = name
    · subst same
      rw [replaces.array_at] at held
      cases slot with
      | scalar value => cases held
      | array values' =>
          cases held
          exact words
    · rw [replaces.arrays_other name' same] at held
      exact wf.array_words name' values held

theorem WellFormed.mark (wf : store.WellFormed) (stored : store.contains name = true)
    {reached : Bool} : (store.mark name reached).WellFormed where
  disjoint := wf.disjoint
  declared_stored name' marked := by
    cases reached with
    | false =>
        simp only [mark_declared, Bool.false_eq_true, if_false, Std.HashSet.contains_erase,
          Bool.and_eq_true] at marked
        exact wf.declared_stored name' marked.2
    | true =>
        simp only [mark_declared, if_true, Std.HashSet.contains_insert, Bool.or_eq_true,
          beq_iff_eq] at marked
        rcases marked with rfl | before
        · exact stored
        · exact wf.declared_stored name' before
  scalar_words := wf.scalar_words
  array_words := wf.array_words

/-! ## Every call keeps the store well formed -/

theorem declareScalar_replaces (value : Int) :
    store.Replaces ⟨store.scalars.insert name (Arith.wrap value), store.arrays.erase name,
      store.declared⟩ name (.scalar (Arith.wrap value)) where
  declared := rfl
  scalars_other name' other := by simp [Std.HashMap.getElem?_insert, Ne.symm other]
  arrays_other name' other := by simp [Std.HashMap.getElem?_erase, Ne.symm other]
  scalar_at := by simp [Slot.value?]
  array_at := by simp [Slot.elements?]

theorem declareArray_replaces (values : List Int) (length : Nat) :
    store.Replaces ⟨store.scalars.erase name, store.arrays.insert name (arrayContents values length),
      store.declared⟩ name (.array (arrayContents values length)) where
  declared := rfl
  scalars_other name' other := by simp [Std.HashMap.getElem?_erase, Ne.symm other]
  arrays_other name' other := by simp [Std.HashMap.getElem?_insert, Ne.symm other]
  scalar_at := by simp [Slot.value?]
  array_at := by simp [Slot.elements?]

theorem set_replaces (wf : store.WellFormed) {value : Int}
    (stored : store.set name value line = .ok store') :
    store.Replaces store' name (.scalar (Arith.wrap value)) := by
  obtain ⟨found, rfl⟩ := set_ok stored
  have noArray : store.arrays[name]? = none := by
    have disjoint := wf.disjoint name found
    rw [← Std.HashMap.isSome_getElem?_eq_contains] at disjoint
    exact Option.not_isSome_iff_eq_none.mp (by simp [disjoint])
  exact ⟨rfl, fun name' other => by simp [Std.HashMap.getElem?_insert, Ne.symm other],
    fun _ _ => rfl, by simp [Slot.value?], by simp [noArray, Slot.elements?]⟩

theorem setElement_replaces (wf : store.WellFormed) {index value : Int}
    (stored : store.setElement name index value line = .ok store') :
    ∃ values position, store.arrays[name]? = some values ∧
      store.Replaces store' name (.array (values.set! position (Arith.wrap value))) := by
  obtain ⟨values, position, held, rfl⟩ := setElement_ok stored
  have noScalar : store.scalars[name]? = none := by
    cases scalar : store.scalars[name]? with
    | none => rfl
    | some old =>
        have disjoint := wf.disjoint name
          (by rw [← Std.HashMap.isSome_getElem?_eq_contains, scalar]; rfl)
        rw [← Std.HashMap.isSome_getElem?_eq_contains, held] at disjoint
        cases disjoint
  exact ⟨values, position, held, rfl, fun _ _ => rfl,
    fun name' other => by simp [Std.HashMap.getElem?_modify, Ne.symm other],
    by simp [noScalar, Slot.value?], by simp [held, Slot.elements?]⟩

theorem arrayContents_words (values : List Int) (length : Nat) :
    ∀ value ∈ arrayContents values length, Arith.IsWord value := by
  intro value mem
  simp only [arrayContents, Array.mem_append, List.mem_toArray, List.mem_map,
    Array.mem_replicate] at mem
  rcases mem with ⟨original, _, rfl⟩ | ⟨_, rfl⟩
  · exact Arith.isWord_wrap original
  · exact ⟨by decide, by decide⟩

theorem set!_words {values : Array Int} (words : ∀ value ∈ values, Arith.IsWord value)
    (position : Nat) (value : Int) :
    ∀ element ∈ values.set! position (Arith.wrap value), Arith.IsWord element := by
  intro element mem
  rw [Array.set!_eq_setIfInBounds] at mem
  rcases Array.mem_or_eq_of_mem_setIfInBounds mem with old | rfl
  · exact words element old
  · exact Arith.isWord_wrap value

theorem declareScalar_wellFormed (wf : store.WellFormed) (value : Int) (reached : Bool) :
    (store.declareScalar name value reached).WellFormed :=
  (wf.replace (.scalar _) (Arith.isWord_wrap value) (declareScalar_replaces value)).mark
    (declareScalar_replaces value).contains

theorem declareArray_wellFormed (wf : store.WellFormed) (values : List Int) (length : Nat)
    (reached : Bool) : (store.declareArray name values length reached).WellFormed :=
  (wf.replace (.array _) (arrayContents_words values length)
    (declareArray_replaces values length)).mark (declareArray_replaces values length).contains

theorem set_wellFormed (wf : store.WellFormed) {value : Int}
    (stored : store.set name value line = .ok store') : store'.WellFormed :=
  wf.replace (.scalar _) (Arith.isWord_wrap value) (set_replaces wf stored)

theorem setElement_wellFormed (wf : store.WellFormed) {index value : Int}
    (stored : store.setElement name index value line = .ok store') : store'.WellFormed := by
  obtain ⟨values, position, held, replaces⟩ := setElement_replaces wf stored
  exact wf.replace (.array _) (set!_words (wf.array_words name values held) position value) replaces

end Store

end ClassroomC
