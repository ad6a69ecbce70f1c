import ClassroomC.Parser.Expr
import ClassroomC.Proofs.Unmarked
import ClassroomC.Proofs.Words

/-!
# Ring expressions evaluate exactly, then wrap

An expression built from literals, variables, array elements, unary `-` and
`+`, and binary `+`, `-` and `*` evaluates, in a store that holds words, to
its exact value wrapped once: the wrapping the evaluator does after every
operator changes nothing, since wrapping commutes with the ring operations.
The exact value reads variables and elements from the store, and the index
of an element is evaluated as the evaluator does; a read that fails makes
both fail alike.

Literals may be of any size. The parser's folding of a minus into the
literal it precedes therefore never changes a value.
-/

namespace ClassroomC

/-! ## Stores that hold words -/

namespace Store

/-- Every value the store holds, in a scalar or an array, is a word. -/
def HoldsWords (store : Store) : Prop :=
  (∀ (name : String) (value : Int), store.scalars[name]? = some value → Arith.IsWord value) ∧
    ∀ (name : String) (values : Array Int), store.arrays[name]? = some values →
      ∀ value ∈ values, Arith.IsWord value

theorem WellFormed.holdsWords {store : Store} (wf : store.WellFormed) : store.HoldsWords :=
  ⟨wf.scalar_words, wf.array_words⟩

variable {store : Store} {name : String} {line : Option Nat} {value : Int}

theorem get_isWord (words : store.HoldsWords) (read : store.get name line = .ok value) :
    Arith.IsWord value :=
  words.1 name value (get_ok read)

theorem getElement_isWord (words : store.HoldsWords) {index : Int}
    (read : store.getElement name index line = .ok value) : Arith.IsWord value := by
  rw [Store.getElement_eq] at read
  obtain ⟨values, found, placed⟩ := bind_eq_ok read
  obtain ⟨position, -, answered⟩ := bind_eq_ok placed
  cases answered
  -- an element of the array, or the default zero past its end
  rw [Array.getD]
  split
  · exact words.2 name values (arrayOf_ok found) _ (Array.getElem_mem _)
  · exact ⟨by decide, by decide⟩

end Store

/-! ## Ring expressions -/

/-- The ring operators among the binary operators. -/
inductive RingOp where
  | add | sub | mul
  deriving DecidableEq

namespace RingOp

def toBinOp : RingOp → BinOp
  | add => .add
  | sub => .sub
  | mul => .mul

/-- The operator on unbounded integers. -/
def apply : RingOp → Int → Int → Int
  | add => (· + ·)
  | sub => (· - ·)
  | mul => (· * ·)

theorem apply_modEq (op : RingOp) {left left' right right' : Int}
    (leftSame : left ≡ left' [ZMOD 2 ^ 32]) (rightSame : right ≡ right' [ZMOD 2 ^ 32]) :
    op.apply left right ≡ op.apply left' right' [ZMOD 2 ^ 32] := by
  cases op with
  | add => exact leftSame.add rightSame
  | sub => exact leftSame.sub rightSame
  | mul => exact leftSame.mul rightSame

/-- Wrapping the operands first does not change the wrapped result. -/
theorem wrap_apply_wrap (op : RingOp) (left right : Int) :
    Arith.wrap (op.apply (Arith.wrap left) (Arith.wrap right)) = Arith.wrap (op.apply left right) :=
  Arith.wrap_eq_wrap_iff.mpr (op.apply_modEq (Arith.wrap_modEq left) (Arith.wrap_modEq right))

end RingOp

theorem Arith.wrap_neg_wrap (value : Int) : Arith.wrap (-Arith.wrap value) = Arith.wrap (-value) :=
  Arith.wrap_eq_wrap_iff.mpr (Arith.wrap_modEq value).neg

/-- Expressions of the ring fragment: literals of any size, variables, array
elements at any index expression, unary minus and plus, and the ring
operators. -/
inductive RingExpr where
  | int (value : Int)
  | var (name : String)
  | index (name : String) (position : Expr)
  | neg (operand : RingExpr)
  | pos (operand : RingExpr)
  | binary (op : RingOp) (left right : RingExpr)

namespace RingExpr

/-- The expression of the language it stands for. -/
def toExpr : RingExpr → Expr
  | int value => .int value
  | var name => .var name
  | index name position => .index name position
  | neg operand => .unary .neg operand.toExpr
  | pos operand => .unary .pos operand.toExpr
  | binary op left right => .binary op.toBinOp left.toExpr right.toExpr

/-- The exact value, in unbounded integers, with variables and elements read
from `store`. An element's index is evaluated by the evaluator. -/
def exact (store : Store) (line : Option Nat) : RingExpr → Except RuntimeError Int
  | int value => .ok value
  | var name => store.get name line
  | index name position => do
    let index ← eval store line position
    store.getElement name index line
  | neg operand => do
    let value ← operand.exact store line
    pure (-value)
  | pos operand => operand.exact store line
  | binary op left right => do
    let first ← left.exact store line
    let second ← right.exact store line
    pure (op.apply first second)

end RingExpr

/-! ## Evaluation is exact arithmetic, wrapped -/

variable {store : Store} {line : Option Nat}

theorem eval_binary_toBinOp (op : RingOp) (left right : Expr) :
    eval store line (.binary op.toBinOp left right) =
      eval store line left >>= fun first => eval store line right >>= fun second =>
        pure (Arith.wrap (op.apply first second)) := by
  cases op <;> rfl

/-- The induction is on the ring expression; a variable or an element is
already a word, and every operator's wrapping is absorbed by the one at the
top. -/
theorem eval_ring (words : store.HoldsWords) (expr : RingExpr) :
    eval store line expr.toExpr = (expr.exact store line).map Arith.wrap := by
  induction expr with
  | int value => rfl
  | var name =>
      show store.get name line = (store.get name line).map Arith.wrap
      cases read : store.get name line with
      | error error => rfl
      | ok value =>
          rw [Except.map, Arith.wrap_of_isWord (Store.get_isWord words read)]
  | index name position =>
      show (do let index ← eval store line position; store.getElement name index line) =
        (do let index ← eval store line position; store.getElement name index line).map Arith.wrap
      cases eval store line position with
      | error error => rfl
      | ok index =>
          show store.getElement name index line = (store.getElement name index line).map Arith.wrap
          cases read : store.getElement name index line with
          | error error => rfl
          | ok value =>
              rw [Except.map, Arith.wrap_of_isWord (Store.getElement_isWord words read)]
  | neg operand operandEval =>
      simp only [RingExpr.toExpr, RingExpr.exact, eval, operandEval]
      cases operand.exact store line with
      | error error => rfl
      | ok value => exact congrArg Except.ok (Arith.wrap_neg_wrap value)
  | pos operand operandEval =>
      simp only [RingExpr.toExpr, RingExpr.exact, eval, operandEval]
      cases operand.exact store line <;> rfl
  | binary op left right leftEval rightEval =>
      rw [RingExpr.toExpr, eval_binary_toBinOp, leftEval, rightEval, RingExpr.exact]
      cases left.exact store line with
      | error error => rfl
      | ok first =>
          cases right.exact store line with
          | error error => rfl
          | ok second => exact congrArg Except.ok (op.wrap_apply_wrap first second)

/-- Folding a minus into the literal it precedes keeps the value. -/
theorem eval_applyUnary (op : UnOp) (operand : Expr) :
    eval store line (Parser.applyUnary op operand) = eval store line (.unary op operand) := by
  cases op <;> cases operand <;> try rfl
  show Except.ok (Arith.wrap (-_)) = Except.ok (Arith.wrap (-Arith.wrap _))
  rw [Arith.wrap_neg_wrap]

/-- Wrapping is the ring map onto words. Each integer wraps to the one word
congruent to it modulo `2^32`, and the unsigned reading does not see the
wrapping. So an expression of the ring fragment, whatever the size of its
literals, evaluates in a store that holds words to its exact value wrapped
once, or fails as its exact evaluation does; and the parser's folding of a
minus into a literal keeps every value. -/
theorem ring_evaluation_wraps_exact :
    (∀ value word : Int,
      Arith.wrap value = word ↔ Arith.IsWord word ∧ word ≡ value [ZMOD 2 ^ 32]) ∧
    (∀ value : Int, Arith.toUnsigned (Arith.wrap value) = Arith.toUnsigned value) ∧
    (∀ store : Store, store.HoldsWords → ∀ (line : Option Nat) (expr : RingExpr),
      eval store line expr.toExpr = (expr.exact store line).map Arith.wrap) ∧
    (∀ (store : Store) (line : Option Nat) (op : UnOp) (operand : Expr),
      eval store line (Parser.applyUnary op operand) = eval store line (.unary op operand)) :=
  ⟨fun _ _ => Arith.wrap_eq_iff, Arith.toUnsigned_wrap, fun _ words _ expr => eval_ring words expr,
    fun _ _ => eval_applyUnary⟩

/-- In a store holding the largest word, that word plus one evaluates to
the exact sum wrapped. -/
theorem ring_evaluation_of_largest_successor :
    (Store.empty.declareScalar "x" 2147483647 true).HoldsWords ∧
      eval (Store.empty.declareScalar "x" 2147483647 true) none
          (RingExpr.binary .add (.var "x") (.int 1)).toExpr =
        ((RingExpr.binary .add (.var "x") (.int 1)).exact
          (Store.empty.declareScalar "x" 2147483647 true) none).map Arith.wrap :=
  have holds := (Store.declareScalar_wellFormed Store.empty_wellFormed 2147483647 true).holdsWords
  ⟨holds, ring_evaluation_wraps_exact.2.2.1 _ holds none _⟩

end ClassroomC
