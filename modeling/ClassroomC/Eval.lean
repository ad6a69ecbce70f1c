import ClassroomC.Store
import ClassroomC.Syntax
/-!
# Evaluating expressions

Expressions evaluate to words and never change the store. Arithmetic wraps
to 32 bits after each operation; `/` and `%` refuse a zero divisor and
otherwise truncate toward zero; comparisons and the logical operators yield
`1` or `0`, and `&&` and `||` evaluate their right operand only when the left
one does not decide the result. A string literal has no integer value.

Every error is reported at the line the evaluation was asked for.
-/

namespace ClassroomC

namespace Eval

/-- A truth value as a word. -/
def ofBool (b : Bool) : Int := if b then 1 else 0

/-- Apply a binary operator to two words, both already evaluated. -/
def applyBinary (op : BinOp) (left right : Int) (line : Option Nat) : Except RuntimeError Int :=
  match op with
  | .add => .ok (Arith.wrap (left + right))
  | .sub => .ok (Arith.wrap (left - right))
  | .mul => .ok (Arith.wrap (left * right))
  | .div =>
    if right = 0 then .error ⟨.divisionByZero, line⟩ else .ok (Arith.wrap (Arith.quot left right))
  | .mod =>
    if right = 0 then .error ⟨.moduloByZero, line⟩ else .ok (Arith.wrap (Arith.rem left right))
  | .eq => .ok (ofBool (left == right))
  | .ne => .ok (ofBool (left != right))
  | .lt => .ok (ofBool (decide (left < right)))
  | .le => .ok (ofBool (decide (left ≤ right)))
  | .gt => .ok (ofBool (decide (left > right)))
  | .ge => .ok (ofBool (decide (left ≥ right)))
  | .and => .ok (ofBool (left != 0 && right != 0))
  | .or => .ok (ofBool (left != 0 || right != 0))

/-- Apply a unary operator to a word. -/
def applyUnary (op : UnOp) (operand : Int) : Int :=
  match op with
  | .neg => Arith.wrap (-operand)
  | .pos => operand
  | .not => ofBool (operand == 0)

end Eval

/-- The value of `expr` in `store`; errors are reported at `line`. -/
def eval (store : Store) (line : Option Nat) : Expr → Except RuntimeError Int
  | .int value => .ok (Arith.wrap value)
  | .str value => .error ⟨.stringAsInteger value, line⟩
  | .var name => store.get name line
  | .index name index => do
    let position ← eval store line index
    store.getElement name position line
  | .unary op operand => do
    let value ← eval store line operand
    pure (Eval.applyUnary op value)
  | .binary .and left right => do
    let first ← eval store line left
    if first == 0 then pure 0
    else
      let second ← eval store line right
      pure (Eval.ofBool (second != 0))
  | .binary .or left right => do
    let first ← eval store line left
    if first != 0 then pure 1
    else
      let second ← eval store line right
      pure (Eval.ofBool (second != 0))
  | .binary op left right => do
    let first ← eval store line left
    let second ← eval store line right
    Eval.applyBinary op first second line

/-- Whether `expr` is true in `store`: its value is not zero. -/
def holds (store : Store) (line : Option Nat) (expr : Expr) : Except RuntimeError Bool := do
  let value ← eval store line expr
  pure (value != 0)

end ClassroomC
