import ClassroomC.Printf.Render
import ClassroomC.Limits
/-!
# The machine a program runs on

A running program has its variables, the text it has printed with the
number of characters in it, and the warnings of its `printf` calls. Two
limits bound a run: the iterations of all loops together, and the characters
printed.

This module holds the effects of the statements that do not run other
statements: declarations, assignments and `printf`.
-/

namespace ClassroomC

/-- How control leaves a statement: on to the next one, out of the
innermost loop, to the next iteration of it, or out of the program with the
value returned, if any. -/
inductive Flow where
  | next
  | breakLoop
  | continueLoop
  | returned (value : Option Int)
  deriving Repr, BEq, DecidableEq

/-- What a running program holds besides its loop count: its variables, the
text it has printed with the number of characters in it, and the warnings of
its `printf` calls. -/
structure Machine where
  store : Store
  output : String := ""
  printed : Nat := 0
  warnings : Array String := #[]

/-- The combination of the current value of a target with the right side
of a compound assignment, before wrapping. -/
def AssignOp.combine (op : AssignOp) (current value : Int) : Except Fault Int :=
  match op with
  | .set => .ok value
  | .add => .ok (current + value)
  | .sub => .ok (current - value)
  | .mul => .ok (current * value)
  | .div => Arith.divide current value
  | .mod => Arith.remainder current value

/-- Combine for a compound assignment at `line`; a plain one keeps `value`. -/
def AssignOp.update (op : AssignOp) (line : Nat) (current : Unit → Except RuntimeError Int)
    (value : Int) : Except RuntimeError Int :=
  match op with
  | .set => .ok value
  | op => do
    let current ← current ()
    (op.combine current value).mapError fun fault => ⟨fault, some line⟩

namespace Store

/-- Run `target op value` at `line`. The right side is evaluated first, on
the store before the assignment, then the index of an element target; a
compound assignment then reads the target. -/
def assign (store : Store) (target : Target) (op : AssignOp) (value : Expr) (line : Nat) :
    Except RuntimeError Store := do
  let value ← eval store (some line) value
  match target with
  | .index name index =>
    let position ← eval store (some line) index
    let value ← op.update line (fun _ => store.getElement name position (some line)) value
    store.setElement name position value (some line)
  | .var name =>
    let value ← op.update line (fun _ => store.get name (some line)) value
    store.set name value (some line)

/-- Run the declaration `int name = value;` at `line`; without a value
the variable holds zero. -/
def declare (store : Store) (name : String) (value : Option Expr) (line : Nat) :
    Except RuntimeError Store := do
  let initial ← match value with
    | some value => eval store (some line) value
    | none => pure 0
  pure (store.declareScalar name initial true)

end Store

namespace Machine

/-- The machine at the start of a run from `store`. -/
def start (store : Store) : Machine := { store }

/-- Run the declaration `int name = value;` at `line`. -/
def declare (machine : Machine) (name : String) (value : Option Expr) (line : Nat) :
    Except Failure Machine :=
  -- taking the machine apart first leaves the store with one owner, so it
  -- is updated in place
  let ⟨store, output, printed, warnings⟩ := machine
  match store.declare name value line with
  | .ok store => .ok ⟨store, output, printed, warnings⟩
  | .error error => .error (.runtime error)

/-- Run the declaration of the array `name` with `length` elements, the
first ones `values`. -/
def declareArray (machine : Machine) (name : String) (values : List Int) (length : Nat) :
    Machine :=
  let ⟨store, output, printed, warnings⟩ := machine
  ⟨store.declareArray name values length true, output, printed, warnings⟩

/-- Run the assignment `target op value` at `line`. -/
def assign (machine : Machine) (target : Target) (op : AssignOp) (value : Expr) (line : Nat) :
    Except Failure Machine :=
  let ⟨store, output, printed, warnings⟩ := machine
  match store.assign target op value line with
  | .ok store => .ok ⟨store, output, printed, warnings⟩
  | .error error => .error (.runtime error)

/-- Run `printf(format, args...)` at `line`: its warnings are kept with the
line in front, and its text is printed unless the output would grow past
`limit` characters. -/
def print (limit : Nat) (machine : Machine) (format : String) (args : List Expr)
    (line : Nat) : Except Failure Machine := do
  let rendered ← Printf.render machine.store (some line) format args
  let total := machine.printed + rendered.text.length
  if total > limit then throw (.runtime ⟨.outputLimit limit, some line⟩)
  let ⟨store, output, _, warnings⟩ := machine
  pure {
    store
    output := output ++ rendered.text
    printed := total
    warnings := warnings ++ rendered.warnings.map (s!"line {line}: " ++ ·) }

end Machine

end ClassroomC
