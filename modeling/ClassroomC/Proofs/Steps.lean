import ClassroomC.Machine

/-!
# What one statement does to the machine

Declarations and assignments change only the store, and their failures are
the store's runtime errors. A `printf` renders its text first, then either
refuses it at the output limit or appends it, counting its characters.
These are the facts about single statements that proofs about whole runs
use, so that no such proof unfolds the machine's operations.
-/

namespace ClassroomC

namespace Machine

variable {machine machine' : Machine} {name : String} {value : Option Expr} {line : Nat}
  {failure : Failure}

theorem declare_ok (declared : machine.declare name value line = .ok machine') :
    ∃ store, machine.store.declare name value line = .ok store ∧
      machine' = { machine with store } := by
  obtain ⟨store, output, printed, warnings⟩ := machine
  unfold Machine.declare at declared
  simp only at declared
  cases stored : store.declare name value line with
  | error error =>
      rw [stored] at declared
      cases declared
  | ok store' =>
      rw [stored] at declared
      cases declared
      exact ⟨store', rfl, rfl⟩

theorem declare_error (refused : machine.declare name value line = .error failure) :
    ∃ error, machine.store.declare name value line = .error error ∧ failure = .runtime error := by
  obtain ⟨store, output, printed, warnings⟩ := machine
  unfold Machine.declare at refused
  simp only at refused
  cases stored : store.declare name value line with
  | error error =>
      rw [stored] at refused
      cases refused
      exact ⟨error, rfl, rfl⟩
  | ok store' =>
      rw [stored] at refused
      cases refused

theorem declareArray_eq (values : List Int) (length : Nat) :
    machine.declareArray name values length =
      { machine with store := machine.store.declareArray name values length true } := by
  obtain ⟨store, output, printed, warnings⟩ := machine
  rfl

variable {target : Target} {op : AssignOp} {expr : Expr}

theorem assign_ok (assigned : machine.assign target op expr line = .ok machine') :
    ∃ store, machine.store.assign target op expr line = .ok store ∧
      machine' = { machine with store } := by
  obtain ⟨store, output, printed, warnings⟩ := machine
  unfold Machine.assign at assigned
  simp only at assigned
  cases stored : store.assign target op expr line with
  | error error =>
      rw [stored] at assigned
      cases assigned
  | ok store' =>
      rw [stored] at assigned
      cases assigned
      exact ⟨store', rfl, rfl⟩

theorem assign_error (refused : machine.assign target op expr line = .error failure) :
    ∃ error, machine.store.assign target op expr line = .error error ∧ failure = .runtime error := by
  obtain ⟨store, output, printed, warnings⟩ := machine
  unfold Machine.assign at refused
  simp only at refused
  cases stored : store.assign target op expr line with
  | error error =>
      rw [stored] at refused
      cases refused
      exact ⟨error, rfl, rfl⟩
  | ok store' =>
      rw [stored] at refused
      cases refused

/-- The machine after a `printf` at `line` that rendered `rendered`. -/
def printedWith (machine : Machine) (rendered : Printf.Rendered) (line : Nat) : Machine :=
  { machine with
    output := machine.output ++ rendered.text
    printed := machine.printed + rendered.text.length
    warnings := machine.warnings ++ rendered.warnings.map (s!"line {line}: " ++ ·) }

variable {limit : Nat} {format : String} {args : List Expr}

theorem print_of_render {rendered : Printf.Rendered}
    (renders : Printf.render machine.store (some line) format args = .ok rendered)
    (fits : machine.printed + rendered.text.length ≤ limit) :
    machine.print limit format args line = .ok (machine.printedWith rendered line) := by
  obtain ⟨store, output, printed, warnings⟩ := machine
  unfold Machine.print
  simp only at renders fits
  rw [renders]
  simp only [bind, Except.bind, pure, Except.pure, gt_iff_lt, Nat.not_lt.mpr fits, if_false]
  rfl

theorem print_ok (printed : machine.print limit format args line = .ok machine') :
    ∃ rendered, Printf.render machine.store (some line) format args = .ok rendered ∧
      machine.printed + rendered.text.length ≤ limit ∧
      machine' = machine.printedWith rendered line := by
  cases renders : Printf.render machine.store (some line) format args with
  | error error =>
      unfold Machine.print at printed
      rw [renders] at printed
      cases printed
  | ok rendered =>
      by_cases fits : machine.printed + rendered.text.length ≤ limit
      · rw [print_of_render renders fits] at printed
        cases printed
        exact ⟨rendered, rfl, fits, rfl⟩
      · unfold Machine.print at printed
        rw [renders] at printed
        simp only [bind, Except.bind, gt_iff_lt, Nat.lt_of_not_le fits, if_true] at printed
        cases printed

theorem print_error (refused : machine.print limit format args line = .error failure) :
    Printf.render machine.store (some line) format args = .error failure ∨
      ∃ rendered, Printf.render machine.store (some line) format args = .ok rendered ∧
        limit < machine.printed + rendered.text.length ∧
        failure = .runtime ⟨.outputLimit limit, some line⟩ := by
  cases renders : Printf.render machine.store (some line) format args with
  | error error =>
      unfold Machine.print at refused
      rw [renders] at refused
      cases refused
      exact .inl rfl
  | ok rendered =>
      by_cases fits : machine.printed + rendered.text.length ≤ limit
      · rw [print_of_render renders fits] at refused
        cases refused
      · unfold Machine.print at refused
        rw [renders] at refused
        simp only [bind, Except.bind, gt_iff_lt, Nat.lt_of_not_le fits, if_true] at refused
        cases refused
        exact .inr ⟨rendered, rfl, Nat.lt_of_not_le fits, rfl⟩

end Machine

end ClassroomC
