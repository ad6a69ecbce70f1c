import ClassroomC.Parser.Stmt
import ClassroomC.Machine
import ClassroomC.Proofs.Words

/-!
# Compound assignment is its expansion

`target op= value` runs as `target = target ⊕ value`, where `⊕` is the
binary operator of `op`: the one succeeds exactly when the other does, and
then both leave the same machine. The two do not compute alike. The compound
form evaluates the right side first, then the index and the current value,
and combines unwrapped integers; the expansion reads the target first and
wraps after the operator, and evaluates the index twice. But evaluation
never changes the store, so only which error comes first can differ, and
the write wraps what it stores, so the missing wrap is made up there. The
zero divisor is refused by both with the same error.

So `i++` and `i--`, read as `i += 1` and `i -= 1`, are `i = i + 1` and
`i = i - 1`, wrap-around at both ends of the words included.
-/

namespace ClassroomC

/-- The expression that reads a target. -/
def Target.toExpr : Target → Expr
  | .var name => .var name
  | .index name position => .index name position

/-- The binary operator a compound assignment applies; a plain assignment
has none. -/
def AssignOp.binOp? : AssignOp → Option BinOp
  | .set => none
  | .add => some .add
  | .sub => some .sub
  | .mul => some .mul
  | .div => some .div
  | .mod => some .mod

/-- The right side of the plain assignment that `target op= value` stands
for: `target ⊕ value`, or `value` itself when `op` is plain. -/
def AssignOp.expand (op : AssignOp) (target : Target) (value : Expr) : Expr :=
  match op.binOp? with
  | some binary => .binary binary target.toExpr value
  | none => value

/-! ## Success of computations that fail in another order -/

section Reordering

variable {ε α β γ : Type}

/-- Two independent computations can run in either order: which one fails
first changes only the error. -/
theorem bind_swap_ok {first : Except ε α} {second : Except ε β} {rest : α → β → Except ε γ}
    {result : γ} :
    (first >>= fun a => second >>= fun b => rest a b) = .ok result ↔
      (second >>= fun b => first >>= fun a => rest a b) = .ok result := by
  cases first <;> cases second <;> simp [bind, Except.bind]

theorem ok_bind (a : α) (rest : α → Except ε β) : (Except.ok a : Except ε α) >>= rest = rest a :=
  rfl

theorem error_bind (error : ε) (rest : α → Except ε β) :
    (Except.error error : Except ε α) >>= rest = .error error :=
  rfl

theorem bind_error_ne_ok (first : Except ε α) (error : ε) (result : β) :
    (first >>= fun _ => (Except.error error : Except ε β)) ≠ .ok result := by
  cases first <;> simp [ok_bind, error_bind]

end Reordering

/-! ## The steps of the two assignments -/

namespace Store

variable {store : Store} {name : String} {line : Option Nat}

/-- A scalar write wraps what it stores. -/
theorem set_wrap (value : Int) :
    store.set name (Arith.wrap value) line = store.set name value line := by
  simp only [Store.set_eq, Arith.wrap_wrap]

/-- An element write wraps what it stores. -/
theorem setElement_wrap (index value : Int) :
    store.setElement name index (Arith.wrap value) line = store.setElement name index value line := by
  simp only [Store.setElement_eq, Arith.wrap_wrap]

end Store

namespace AssignOp

variable {op : AssignOp} {binary : BinOp}

theorem update_set (line : Nat) (current : Unit → Except RuntimeError Int) (value : Int) :
    AssignOp.set.update line current value = pure value :=
  rfl

theorem update_of_binOp? (has : op.binOp? = some binary) (line : Nat)
    (current : Unit → Except RuntimeError Int) (value : Int) :
    op.update line current value =
      current () >>= fun held => (op.combine held value).mapError fun fault => ⟨fault, some line⟩ := by
  cases op <;> cases has <;> rfl

/-- Combining and then writing is applying the binary operator and then
writing: the results differ by a wrap, which the write makes, and a zero
divisor is the same error. -/
theorem combine_write {σ : Type} (has : op.binOp? = some binary) (write : Int → Except RuntimeError σ)
    (wraps : ∀ value, write (Arith.wrap value) = write value) (held value : Int) (line : Nat) :
    ((op.combine held value).mapError fun fault => ⟨fault, some line⟩) >>= write =
      Eval.applyBinary binary held value (some line) >>= write := by
  cases op <;> cases has
  all_goals
    by_cases zero : value = 0 <;>
      simp [AssignOp.combine, Arith.divide, Arith.remainder, Eval.applyBinary, Except.mapError,
        bind, Except.bind, zero, wraps]

end AssignOp

variable {store : Store} {line : Option Nat}

theorem eval_binary_of_binOp? {op : AssignOp} {binary : BinOp} (has : op.binOp? = some binary)
    (left right : Expr) :
    eval store line (.binary binary left right) =
      eval store line left >>= fun first => eval store line right >>= fun second =>
        Eval.applyBinary binary first second line := by
  cases op <;> cases has <;> rfl

/-! ## The two assignments -/

namespace Store

/-- The compound assignment `target op= value` succeeds exactly when
`target = target ⊕ value` does, and then leaves the same store. -/
theorem assign_expand_ok (store : Store) (target : Target) (op : AssignOp) (value : Expr)
    (line : Nat) (result : Store) :
    store.assign target op value line = .ok result ↔
      store.assign target .set (op.expand target value) line = .ok result := by
  cases has : op.binOp? with
  | none =>
      have plain : op = .set := by cases op <;> simp_all [AssignOp.binOp?]
      subst plain
      rfl
  | some binary =>
      simp only [AssignOp.expand, has]
      cases target with
      | var name =>
          simp only [Store.assign, AssignOp.update_of_binOp? has, AssignOp.update_set,
            Target.toExpr, eval_binary_of_binOp? has, eval, bind_assoc, pure_bind,
            AssignOp.combine_write has (fun held => store.set name held (some line))
              (fun held => set_wrap held)]
          -- the right side is evaluated first in one, the current value in the other
          exact bind_swap_ok
      | index name position =>
          simp only [Store.assign, AssignOp.update_of_binOp? has, AssignOp.update_set,
            Target.toExpr, eval_binary_of_binOp? has, eval, bind_assoc, pure_bind]
          -- the expansion evaluates the index twice, to the same position
          cases eval store (some line) position with
          | error error =>
              simp only [error_bind]
              exact iff_of_false (bind_error_ne_ok _ error result) (by simp)
          | ok index =>
              simp only [ok_bind, AssignOp.combine_write has
                (fun held => store.setElement name index held (some line))
                (fun held => setElement_wrap index held)]
              exact bind_swap_ok

end Store

namespace Machine

/-- The machine-level form: the assignment and its expansion succeed
together and leave the same machine. -/
theorem assign_expand_ok (machine : Machine) (target : Target) (op : AssignOp) (value : Expr)
    (line : Nat) (machine' : Machine) :
    machine.assign target op value line = .ok machine' ↔
      machine.assign target .set (op.expand target value) line = .ok machine' := by
  obtain ⟨store, output, printed, warnings⟩ := machine
  have same := Store.assign_expand_ok store target op value line
  unfold Machine.assign
  simp only
  cases compound : store.assign target op value line with
  | ok result => rw [(same result).mp compound]
  | error error =>
      cases expanded : store.assign target .set (op.expand target value) line with
      | error error' => exact iff_of_false (by simp) (by simp)
      | ok result =>
          have succeeds := (same result).mpr expanded
          rw [compound] at succeeds
          cases succeeds

end Machine

namespace Parser

/-- `name++` and `name--` are read as `name += 1` and `name -= 1`. -/
theorem simpleStatement_step (name : String) (line line' : Nat) (rest : List Token) :
    (simpleStatement (⟨.ident, name, line⟩ :: ⟨.op, "++", line'⟩ :: rest)).map Consumed.value =
        .ok (.assign (.var name) .add (.int 1) line) ∧
      (simpleStatement (⟨.ident, name, line⟩ :: ⟨.op, "--", line'⟩ :: rest)).map Consumed.value =
        .ok (.assign (.var name) .sub (.int 1) line) := by
  constructor <;> simp +decide [simpleStatement, target, Token.isOp] <;> rfl

end Parser

/-- Compound assignment is its expansion: for every target, operator and
right side, `target op= value` succeeds exactly when
`target = target ⊕ value` does, and then both leave the same machine. The
parser reads `name++` and `name--` as `name += 1` and `name -= 1`, so these
are `name = name + 1` and `name = name - 1`, wrap-around included. -/
theorem compound_assignment_is_expansion :
    (∀ (name : String) (line line' : Nat) (rest : List Token),
      (Parser.simpleStatement (⟨.ident, name, line⟩ :: ⟨.op, "++", line'⟩ :: rest)).map
          Parser.Consumed.value = .ok (.assign (.var name) .add (.int 1) line) ∧
      (Parser.simpleStatement (⟨.ident, name, line⟩ :: ⟨.op, "--", line'⟩ :: rest)).map
          Parser.Consumed.value = .ok (.assign (.var name) .sub (.int 1) line)) ∧
    (∀ (machine : Machine) (target : Target) (op : AssignOp) (value : Expr) (line : Nat)
        (machine' : Machine),
      machine.assign target op value line = .ok machine' ↔
        machine.assign target .set (op.expand target value) line = .ok machine') :=
  ⟨Parser.simpleStatement_step, Machine.assign_expand_ok⟩

end ClassroomC
