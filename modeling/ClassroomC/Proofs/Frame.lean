import ClassroomC.Binding
import ClassroomC.Printf.Render

/-!
# What evaluation reads

Evaluating an expression reads the store only at the names the expression
references: their scalars and arrays, and whether they are declared. Two
stores that agree on those names give the same value or the same error, and
a `printf` renders the same text and warnings in both. Every access of the store goes
through `Store.checkDeclared` and a lookup in the scalars or the arrays, so
agreement on one name is three equations.
-/

namespace ClassroomC

/-- The names an expression reads, in the order evaluation meets them. -/
def Expr.names (expr : Expr) : List String :=
  expr.references.map Prod.fst

namespace Store

/-- Two stores agree on `name`: the same scalar, the same array, and both or
neither declare it. -/
def AgreeOn (store store' : Store) (name : String) : Prop :=
  store.scalars[name]? = store'.scalars[name]? ∧ store.arrays[name]? = store'.arrays[name]? ∧
    store.declared.contains name = store'.declared.contains name

namespace AgreeOn

variable {store store' : Store} {name : String} {line : Option Nat}

theorem contains (agree : store.AgreeOn store' name) :
    store.contains name = store'.contains name := by
  unfold Store.contains
  rw [contains_congr agree.1, contains_congr agree.2.1]

theorem isArray (agree : store.AgreeOn store' name) :
    store.isArray name = store'.isArray name := by
  unfold Store.isArray
  rw [contains_congr agree.2.1]

theorem checkDeclared (agree : store.AgreeOn store' name) :
    store.checkDeclared name line = store'.checkDeclared name line := by
  unfold Store.checkDeclared
  rw [agree.2.2, agree.contains]

theorem get (agree : store.AgreeOn store' name) : store.get name line = store'.get name line := by
  rw [Store.get_eq, Store.get_eq, agree.checkDeclared, agree.1, contains_congr agree.2.1]

theorem arrayOf (agree : store.AgreeOn store' name) :
    store.arrayOf name line = store'.arrayOf name line := by
  rw [Store.arrayOf_eq, Store.arrayOf_eq, agree.checkDeclared, agree.2.1, contains_congr agree.1]

theorem getElement (agree : store.AgreeOn store' name) (index : Int) :
    store.getElement name index line = store'.getElement name index line := by
  rw [Store.getElement_eq, Store.getElement_eq, agree.arrayOf]

end AgreeOn

end Store

/-- Evaluation reads only the names the expression references. -/
theorem eval_congr {store store' : Store} {line : Option Nat} (expr : Expr)
    (agree : ∀ name ∈ expr.names, store.AgreeOn store' name) :
    eval store line expr = eval store' line expr := by
  induction expr with
  | int value => rfl
  | str value => rfl
  | var name =>
      have agreeName : store.AgreeOn store' name := agree name (by simp [Expr.names, Expr.references])
      exact agreeName.get
  | index name position ih =>
      have agreeName : store.AgreeOn store' name := agree name (by simp [Expr.names, Expr.references])
      have positionSame : eval store line position = eval store' line position :=
        ih fun name' mem => agree name' (by simp_all [Expr.names, Expr.references])
      simp only [eval, positionSame, agreeName.getElement]
  | binary op left right ihLeft ihRight =>
      have leftSame : eval store line left = eval store' line left :=
        ihLeft fun name mem => agree name (by simp_all [Expr.names, Expr.references])
      have rightSame : eval store line right = eval store' line right :=
        ihRight fun name mem => agree name (by simp_all [Expr.names, Expr.references])
      cases op <;> simp only [eval, leftSame, rightSame]
  | unary op operand ih =>
      have operandSame : eval store line operand = eval store' line operand :=
        ih fun name mem => agree name (by simpa [Expr.names, Expr.references] using mem)
      simp only [eval, operandSame]

/-- The references of an expression cover everything its evaluation reads:
two stores that agree on each referenced name, on whether it is declared and
on its slot (whether there is one, scalar or array, the scalar's value or
the array's elements), evaluate it to the same value or fail with the same
error, at the same line. -/
theorem eval_reads_only_references {store store' : Store} (line : Option Nat) (expr : Expr)
    (agree : ∀ reference ∈ expr.references, store.AgreeOn store' reference.1) :
    eval store line expr = eval store' line expr := by
  apply eval_congr expr
  intro name mem
  obtain ⟨reference, referenced, rfl⟩ := List.mem_map.mp mem
  exact agree reference referenced

/-- A store and the same store with one more variable, which `a[x] + x`
does not read. -/
theorem eval_reads_only_references_other_variable :
    (∀ reference ∈ (Expr.binary .add (.index "a" (.var "x")) (.var "x")).references,
        ((Store.empty.declareScalar "x" 2 true).declareArray "a" [5, 6, 7] 3 true).AgreeOn
          (((Store.empty.declareScalar "x" 2 true).declareArray "a" [5, 6, 7] 3 true).declareScalar
            "y" 9 true) reference.1) ∧
      eval ((Store.empty.declareScalar "x" 2 true).declareArray "a" [5, 6, 7] 3 true) (some 4)
          (.binary .add (.index "a" (.var "x")) (.var "x")) =
        eval (((Store.empty.declareScalar "x" 2 true).declareArray "a" [5, 6, 7] 3 true).declareScalar
          "y" 9 true) (some 4) (.binary .add (.index "a" (.var "x")) (.var "x")) := by
  have agree : ∀ reference ∈ (Expr.binary .add (.index "a" (.var "x")) (.var "x")).references,
      ((Store.empty.declareScalar "x" 2 true).declareArray "a" [5, 6, 7] 3 true).AgreeOn
        (((Store.empty.declareScalar "x" 2 true).declareArray "a" [5, 6, 7] 3 true).declareScalar
          "y" 9 true) reference.1 := by
    simp only [Expr.references, List.cons_append, List.nil_append, List.mem_cons,
      List.not_mem_nil, or_false]
    rintro reference (rfl | rfl | rfl) <;>
      simp only [Store.AgreeOn, Store.declareScalar_scalars, Store.declareScalar_arrays,
        Store.declareScalar_declared, Store.declareArray_scalars, Store.declareArray_arrays,
        Store.declareArray_declared, if_true, Std.HashMap.getElem?_insert,
        Std.HashMap.getElem?_erase, Std.HashSet.contains_insert] <;>
      decide
  exact ⟨agree, eval_reads_only_references (some 4) _ agree⟩

namespace Printf

variable {store store' : Store} {line : Option Nat}

theorem renderSpec_rest {spec : Spec} {args rest : List Expr} {progress progress' : Progress}
    (rendered : renderSpec store line spec args progress = .ok (progress', rest)) :
    rest = args ∨ rest = args.tail := by
  cases args with
  | nil =>
      unfold renderSpec at rendered
      split at rendered <;> simp_all [pure, Except.pure]
  | cons arg more =>
      unfold renderSpec at rendered
      split at rendered
      · cases rendered
        exact .inl rfl
      · right
        delta Except.mapError at rendered
        simp only [bind, Except.bind, pure, Except.pure] at rendered
        -- every arm that succeeds takes exactly the first argument
        repeat' split at rendered
        all_goals (cases rendered <;> rfl)

theorem renderSpec_congr {spec : Spec} {args : List Expr} {progress : Progress}
    (same : ∀ arg ∈ args, eval store line arg = eval store' line arg) :
    renderSpec store line spec args progress = renderSpec store' line spec args progress := by
  cases args with
  | nil => simp only [renderSpec]
  | cons arg more =>
      have argSame : eval store line arg = eval store' line arg := same arg List.mem_cons_self
      simp only [renderSpec, argSame]

theorem renderPieces_congr (pieces : List Piece) {args : List Expr} {progress : Progress}
    (same : ∀ arg ∈ args, eval store line arg = eval store' line arg) :
    renderPieces store line pieces args progress = renderPieces store' line pieces args progress := by
  induction pieces generalizing args progress with
  | nil => rfl
  | cons piece more ih =>
      cases piece with
      | literal text => exact ih same
      | spec spec =>
          simp only [renderPieces]
          rw [renderSpec_congr same]
          cases rendered : renderSpec store' line spec args progress with
          | error failure => rfl
          | ok result =>
              obtain ⟨progress', rest⟩ := result
              have restSame : ∀ arg ∈ rest, eval store line arg = eval store' line arg := by
                intro arg mem
                rcases renderSpec_rest rendered with rfl | rfl
                · exact same arg mem
                · exact same arg (List.mem_of_mem_tail mem)
              exact ih restSame

/-- A `printf` renders the same in two stores that agree on every name its
arguments read. -/
theorem render_congr {format : String} {args : List Expr}
    (agree : ∀ arg ∈ args, ∀ name ∈ arg.names, store.AgreeOn store' name) :
    render store line format args = render store' line format args := by
  have same : ∀ arg ∈ args, eval store line arg = eval store' line arg :=
    fun arg mem => eval_congr arg (agree arg mem)
  unfold render
  rw [renderPieces_congr _ same]

end Printf

end ClassroomC
