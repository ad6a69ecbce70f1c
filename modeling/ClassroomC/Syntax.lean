/-!
# Syntax of programs

Programs of the language: expressions over `int` values, statements with
nested bodies, and a program that lists its included headers and the
statements to run (file-scope declarations first, then the body of `main`).

Integer literals are unbounded: a literal is wrapped to a word only when it
is evaluated. A string literal keeps its raw text, escapes unexpanded. Every
statement carries the line it starts on.
-/

namespace ClassroomC

/-- Binary operators. -/
inductive BinOp where
  | or | and | eq | ne | lt | le | gt | ge | add | sub | mul | div | mod
  deriving Repr, BEq, DecidableEq

/-- How a binary operator is written. -/
def BinOp.symbol : BinOp → String
  | .or => "||"
  | .and => "&&"
  | .eq => "=="
  | .ne => "!="
  | .lt => "<"
  | .le => "<="
  | .gt => ">"
  | .ge => ">="
  | .add => "+"
  | .sub => "-"
  | .mul => "*"
  | .div => "/"
  | .mod => "%"

/-- Unary operators: negation, unary plus, logical not. -/
inductive UnOp where
  | neg | pos | not
  deriving Repr, BEq, DecidableEq

/-- How a unary operator is written. -/
def UnOp.symbol : UnOp → String
  | .neg => "-"
  | .pos => "+"
  | .not => "!"

/-- Expressions. -/
inductive Expr where
  | int (value : Int)
  | str (value : String)
  | var (name : String)
  | index (name : String) (index : Expr)
  | binary (op : BinOp) (left right : Expr)
  | unary (op : UnOp) (operand : Expr)
  deriving Repr, BEq, DecidableEq

/-- Assignment operators: plain assignment and the compound ones. -/
inductive AssignOp where
  | set | add | sub | mul | div | mod
  deriving Repr, BEq, DecidableEq

/-- How an assignment operator is written. -/
def AssignOp.symbol : AssignOp → String
  | .set => "="
  | .add => "+="
  | .sub => "-="
  | .mul => "*="
  | .div => "/="
  | .mod => "%="

/-- What an assignment writes to: a variable or an array element. -/
inductive Target where
  | var (name : String)
  | index (name : String) (index : Expr)
  deriving Repr, BEq, DecidableEq

/-- The name a target writes to. -/
def Target.name : Target → String
  | .var name => name
  | .index name _ => name

mutual

/-- Statements. Bodies are lists of statements. -/
inductive Stmt where
  /-- `int name;` or `int name = value;` -/
  | decl (name : String) (value : Option Expr) (line : Nat)
  /-- `int name[size] = {values};`, with the size, the list or both given. -/
  | arrayDecl (name : String) (size : Option Nat) (values : List Int) (line : Nat)
  /-- `target op value;`, where `i++` is `i += 1`. -/
  | assign (target : Target) (op : AssignOp) (value : Expr) (line : Nat)
  /-- An `if` / `else if` chain with its final `else` body. -/
  | cond (branches : List Branch) (elseBody : List Stmt) (line : Nat)
  /-- `for (init; condition; step) body`; a missing condition holds. -/
  | forLoop (init : Option Stmt) (condition : Option Expr) (step : Option Stmt)
      (body : List Stmt) (line : Nat)
  | whileLoop (condition : Expr) (body : List Stmt) (line : Nat)
  | doWhile (body : List Stmt) (condition : Expr) (line : Nat)
  /-- `printf(format, args...)`, the format as written between its quotes. -/
  | print (format : String) (args : List Expr) (line : Nat)
  | breakLoop (line : Nat)
  | continueLoop (line : Nat)
  | ret (value : Option Expr) (line : Nat)
  deriving Repr

/-- One arm of an `if` chain: its condition and body. -/
inductive Branch where
  | mk (condition : Expr) (body : List Stmt)
  deriving Repr

end

/-- The line a statement starts on. -/
def Stmt.line : Stmt → Nat
  | .decl _ _ line | .arrayDecl _ _ _ line | .assign _ _ _ line | .cond _ _ line
  | .forLoop _ _ _ _ line | .whileLoop _ _ line | .doWhile _ _ line | .print _ _ line
  | .breakLoop line | .continueLoop line | .ret _ line => line

/-- A parsed program: the included headers, then the statements to run. -/
structure Program where
  headers : List String
  body : List Stmt
  deriving Repr

/-- The number of elements an array declaration allocates: its size if
given, else the number of its initial values. -/
def arrayLength (size : Option Nat) (values : List Int) : Nat :=
  size.getD values.length

/-- The check an array declaration passes when it is built: the text of the
first rule it breaks, if any. It needs a size or initial values, a positive
size, and no more values than its size. -/
def arrayDeclProblem? (name : String) (size : Option Nat) (values : List Int) : Option String :=
  match size with
  | none => if values.isEmpty then some s!"array '{name}' needs a size or an initializer list" else none
  | some size =>
    if size == 0 then some s!"array '{name}' size must be positive, got {size}"
    else if values.length > size then
      let count := values.length
      some s!"too many initializers for array '{name}' ({count} > {size})"
    else none

/-- The check an `if` chain passes when it is built: it has a branch. -/
def condProblem? (branches : List Branch) : Option String :=
  if branches.isEmpty then some "conditional needs at least one branch" else none

end ClassroomC
