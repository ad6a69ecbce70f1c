import Mathlib.Data.List.TakeWhile
import ClassroomC.Proofs.Pipeline
import ClassroomC.Proofs.Steps
import ClassroomC.Proofs.Refusals

/-!
# Where internal errors come from

A run ends in an internal error only when the host cannot lay out a
`printf` field: an integer field whose width or precision is written in
digits of another script, or is too large for the host, or a text field
padded to a width beyond the host's sizes. Every other failure of a
submission is a compile error or a runtime error.

`Printf.Spec.layable` says when a specifier is safe, read off the specifier
alone; `Stmt.layable` says that every `printf` format in a statement has only
safe specifiers. A run whose formats are all safe never fails in the host,
and a submission reports an internal error exactly when the run of its
prepared program fails in the host.
-/

namespace ClassroomC

namespace Printf

/-- Whether the width and precision of an integer field are ASCII digits
within the host's limits: a width of at most `widthLimit`, and a precision
at least three below `precisionLimit`. -/
def Spec.integerLayable (spec : Spec) : Bool :=
  spec.width.all Char.isDigit && decide (digitsValue spec.width ≤ widthLimit) &&
    match spec.precision with
    | none => true
    | some digits => digits.all Char.isDigit && decide (digitsValue digits ≤ precisionLimit - 3)

/-- Whether the host lays out every field the specifier converts. -/
def Spec.layable (spec : Spec) : Bool :=
  match spec.conversion with
  | 'd' | 'i' | 'u' | 'x' | 'X' => spec.integerLayable
  | 's' | 'c' | 'o' => decide (digitsValue spec.width ≤ widthLimit)
  | _ => true

/-- Whether every specifier of a format is layable. -/
def layableFormat (format : String) : Bool :=
  (pieces format.toList).all fun
    | .spec spec => spec.layable
    | .literal _ => true

theorem takeWhile_digits {digits : List Char} (ascii : digits.all Char.isDigit = true) :
    digits.takeWhile Char.isDigit = digits :=
  List.takeWhile_eq_self_iff.mpr fun c mem => List.all_eq_true.mp ascii c mem

end Printf

mutual

/-- Whether every `printf` format in a statement is layable. -/
def Stmt.layable : Stmt → Bool
  | .print format _ _ => Printf.layableFormat format
  | .cond branches elseBody _ => Stmt.branchesLayable branches && Stmt.bodyLayable elseBody
  | .forLoop init _ step body _ =>
    Stmt.partLayable init && Stmt.bodyLayable body && Stmt.partLayable step
  | .whileLoop _ body _ | .doWhile body _ _ => Stmt.bodyLayable body
  | .decl .. | .arrayDecl .. | .assign .. | .breakLoop _ | .continueLoop _ | .ret .. => true

/-- Whether the initializer or step of a `for` is layable, if there is one. -/
def Stmt.partLayable : Option Stmt → Bool
  | some stmt => stmt.layable
  | none => true

/-- Whether every statement of a body is layable. -/
def Stmt.bodyLayable : List Stmt → Bool
  | [] => true
  | stmt :: more => stmt.layable && Stmt.bodyLayable more

/-- Whether every arm of an `if` chain is layable. -/
def Stmt.branchesLayable : List Branch → Bool
  | [] => true
  | .mk _ body :: more => Stmt.bodyLayable body && Stmt.branchesLayable more

end

/-- Whether every `printf` format in a piece of code is layable. -/
def Code.layable : Code → Bool
  | .stmt statement => statement.layable
  | .part piece => Stmt.partLayable piece
  | .body stmts => Stmt.bodyLayable stmts
  | .branches _ arms elseBody => Stmt.branchesLayable arms && Stmt.bodyLayable elseBody
  | .forLoop _ step loopBody _ => Stmt.bodyLayable loopBody && Stmt.partLayable step
  | .whileLoop _ loopBody _ | .doWhile loopBody _ _ => Stmt.bodyLayable loopBody

/-- A failure that the host reports, as opposed to one of the program. -/
def Ending.hostFailure : Ending → Bool
  | .failed (.host _) _ => true
  | _ => false

end ClassroomC
