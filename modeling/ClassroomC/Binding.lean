import ClassroomC.Eval
/-!
# Preparing the store before a run

One walk over the program in source order, nested bodies included, sets up
storage for every declaration and checks every use of a name against the
declarations written before it. A use with no declaration before it, an
array read as a value and a scalar indexed are refused here, before any
statement runs.

Declarations at the top level of the program, and in the initializer of a
top-level `for`, are marked declared. Their initializer is evaluated now
when it reads only *constant* scalars: top-level scalars declared that way
and not assigned anywhere since. Every other declaration gets storage
holding zero and stays undeclared until it runs.
-/

namespace ClassroomC

/-- Every variable an expression reads, in the order evaluation meets them,
each with whether it is read as an array. -/
def Expr.references : Expr → List (String × Bool)
  | .int _ | .str _ => []
  | .var name => [(name, false)]
  | .index name position => (name, true) :: position.references
  | .binary _ left right => left.references ++ right.references
  | .unary _ operand => operand.references

namespace Binding

/-- The walk's state: the store being built, the names with a declaration
earlier in the source, and the scalars whose value is known now. -/
structure State where
  store : Store := {}
  seen : Std.HashSet String := {}
  constant : Std.HashSet String := {}

/-- Check one use of `name`, as an array or as a value. -/
def checkName (state : State) (line : Nat) (name : String) (asArray : Bool) :
    Except RuntimeError Unit :=
  if !state.seen.contains name then .error ⟨.undeclared name .usedBeforeDeclaration, some line⟩
  else if asArray && !state.store.isArray name then .error ⟨.notAnArray name, some line⟩
  else if !asArray && state.store.isArray name then .error ⟨.arrayAsValue name, some line⟩
  else .ok ()

/-- Check every use of a name in `expr`. -/
def checkExpr (state : State) (line : Nat) (expr : Expr) : Except RuntimeError Unit :=
  expr.references.forM fun (name, asArray) => checkName state line name asArray

/-- Whether an initializer reading `references` can be evaluated now. -/
def foldable (state : State) (references : List (String × Bool)) : Bool :=
  references.all fun (name, asArray) => !asArray && state.constant.contains name

/-- Record a scalar declaration. Its initializer, if any, is evaluated now
exactly when the declaration is at top level and reads only constants. -/
def declare (topLevel : Bool) (state : State) (name : String) (value : Option Expr)
    (line : Nat) : Except RuntimeError State := do
  let (isConstant, initial) ← match value with
    | none => pure (topLevel, (0 : Int))
    | some expr =>
      let references := expr.references
      references.forM fun (name, asArray) => checkName state line name asArray
      if topLevel && foldable state references then
        let initial ← eval state.store (some line) expr
        pure (true, initial)
      else pure (false, 0)
  let ⟨store, seen, constant⟩ := state
  pure {
    store := store.declareScalar name initial topLevel
    seen := seen.insert name
    constant := if isConstant then constant.insert name else constant.erase name }

mutual

/-- Walk one statement; `topLevel` says whether it runs unconditionally,
once, at the start of the program. -/
def bindStmt (topLevel : Bool) (state : State) : Stmt → Except RuntimeError State
  | .decl name value line => declare topLevel state name value line
  | .arrayDecl name size values _ =>
    let ⟨store, seen, constant⟩ := state
    .ok {
      store := store.declareArray name values (arrayLength size values) topLevel
      seen := seen.insert name
      constant := constant.erase name }
  | .assign target _ value line => do
    checkExpr state line value
    match target with
    | .var name => checkName state line name false
    | .index name index =>
      checkName state line name true
      checkExpr state line index
    pure { state with constant := state.constant.erase target.name }
  | .cond branches elseBody line => do
    let state ← bindBranches line state branches
    bindBody state elseBody
  | .forLoop init condition step body line => do
    let state ← bindPart topLevel state init
    match condition with
    | some condition => checkExpr state line condition
    | none => pure ()
    let state ← bindBody state body
    bindPart false state step
  | .whileLoop condition body line => do
    checkExpr state line condition
    bindBody state body
  | .doWhile body condition line => do
    let state ← bindBody state body
    checkExpr state line condition
    pure state
  | .print _ args line => do
    args.forM (checkExpr state line)
    pure state
  | .ret value line => do
    match value with
    | some value => checkExpr state line value
    | none => pure ()
    pure state
  | .breakLoop _ | .continueLoop _ => .ok state

/-- Walk the initializer or step of a `for`, if there is one. -/
def bindPart (topLevel : Bool) (state : State) : Option Stmt → Except RuntimeError State
  | some stmt => bindStmt topLevel state stmt
  | none => .ok state

/-- Walk a nested body. -/
def bindBody (state : State) : List Stmt → Except RuntimeError State
  | [] => .ok state
  | stmt :: more => do
    let state ← bindStmt false state stmt
    bindBody state more

/-- Walk the arms of an `if` chain: each condition, then its body. -/
def bindBranches (line : Nat) (state : State) : List Branch → Except RuntimeError State
  | [] => .ok state
  | .mk condition body :: more => do
    checkExpr state line condition
    let state ← bindBody state body
    bindBranches line state more

end

/-- Walk the top level of a program. -/
def bindTop (state : State) : List Stmt → Except RuntimeError State
  | [] => .ok state
  | stmt :: more => do
    let state ← bindStmt true state stmt
    bindTop state more

end Binding

/-- The store a run of `program` starts from, or the first use of a name
that the walk refuses. -/
def Program.bind (program : Program) : Except RuntimeError Store := do
  let state ← Binding.bindTop {} program.body
  pure state.store

end ClassroomC
