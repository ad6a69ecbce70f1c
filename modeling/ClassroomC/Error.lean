/-!
# Errors

Three kinds of failure, each a type of its own with the text it is reported
with:

* `CompileError`: the source is outside the language (scanning and parsing).
* `RuntimeError`: a `Fault` of the running program, such as a division by
  zero or an index out of range, at a source line.
* `HostError`: a request that the host cannot carry out, such as a field
  width too large to lay out or a numeral too long to convert. Runs report
  it as an internal error.

Reading a source can end in either of two of them (`ParseError`).

Messages that know their source line end in ` (line N)`.
-/

namespace ClassroomC

/-- The suffix that places a message at a source line, if one is known. -/
def lineSuffix : Option Nat → String
  | some line => s!" (line {line})"
  | none => ""

/-- A refusal of the scanner or the parser, with the line it concerns. -/
structure CompileError where
  message : String
  line : Option Nat := none
  deriving Repr, BEq, DecidableEq

/-- The full text of a compile error. -/
def CompileError.render (error : CompileError) : String :=
  error.message ++ lineSuffix error.line

/-- Why a name is reported as not declared. -/
inductive Undeclared where
  /-- No detail is given. -/
  | plain
  /-- The name has storage, but no declaration of it has run. -/
  | neverExecuted
  /-- The check before the run found the use before any declaration. -/
  | usedBeforeDeclaration
  deriving Repr, BEq, DecidableEq

/-- A fault of the running program. -/
inductive Fault where
  | undeclared (name : String) (reason : Undeclared)
  | arrayAsValue (name : String)
  | notAnArray (name : String)
  | arrayAsWhole (name : String)
  | stringAsInteger (value : String)
  | divisionByZero
  | moduloByZero
  | indexOutOfRange (name : String) (index : Int) (length : Nat)
  | loopBudget (budget : Nat)
  | outputLimit (limit : Nat)
  deriving Repr, BEq, DecidableEq

namespace Fault

/-- The family a fault is reported under. -/
def kind : Fault → String
  | undeclared .. => "UndefinedVariable"
  | divisionByZero | moduloByZero => "DivisionByZero"
  | indexOutOfRange .. => "ArrayIndexOutOfRange"
  | loopBudget _ => "LoopBudgetExceeded"
  | outputLimit _ => "OutputLimitExceeded"
  | arrayAsValue _ | notAnArray _ | arrayAsWhole _ | stringAsInteger _ => "SimulationError"

/-- The text of a fault, without its line. -/
def text : Fault → String
  | undeclared name .plain => s!"'{name}' is not declared"
  | undeclared name .neverExecuted => s!"'{name}' is not declared; its declaration was never executed"
  | undeclared name .usedBeforeDeclaration => s!"'{name}' is not declared; declare it before this use"
  | arrayAsValue name => s!"array '{name}' used as a value; index it like {name}[0]"
  | notAnArray name => s!"'{name}' is not an array and cannot be indexed"
  | arrayAsWhole name => s!"cannot assign to array '{name}' as a whole"
  | stringAsInteger value => s!"string literal \"{value}\" used where an integer is expected"
  | divisionByZero => "division by zero"
  | moduloByZero => "modulo by zero"
  | indexOutOfRange name index length =>
    let last : Int := length - 1
    s!"index {index} is out of range for array '{name}' of length {length} (valid: 0..{last})"
  | loopBudget budget =>
    s!"loop iteration budget of {budget} exceeded; the program may contain an infinite loop"
  | outputLimit limit => s!"output exceeded the limit of {limit} characters"

end Fault

/-- A fault at the source line where it happened, if known. -/
structure RuntimeError where
  fault : Fault
  line : Option Nat := none
  deriving Repr, BEq, DecidableEq

/-- The full text of a runtime error. -/
def RuntimeError.render (error : RuntimeError) : String :=
  error.fault.text ++ lineSuffix error.line

/-- A request that the host cannot carry out. -/
inductive HostError where
  /-- A conversion pattern holds a character that is not a conversion,
  at an index of the pattern. -/
  | unsupportedFormatCharacter (code : Nat) (index : Nat)
  /-- A field width beyond the host's sizes. -/
  | widthTooBig
  /-- A precision beyond the host's `int`. -/
  | precisionTooBig
  /-- A precision too close to the host's `int` limit to be laid out. -/
  | precisionTooLarge
  /-- A padding width beyond the host's sizes. -/
  | paddingTooLarge
  /-- A decimal numeral of more digits than integer conversion accepts. -/
  | digitLimit (digits : Nat)
  /-- A text that integer conversion in `base` refuses, shown quoted. -/
  | invalidLiteral (base : Nat) (shown : String)
  /-- A syntax tree that fails the check of its node type `node`. -/
  | validation (node : String) (text : String)
  /-- A `break` that no loop catches. -/
  | breakSignal
  /-- A `continue` that no loop catches. -/
  | continueSignal
  deriving Repr, BEq, DecidableEq

namespace HostError

/-- The family a host error is reported under. -/
def kind : HostError → String
  | unsupportedFormatCharacter .. | widthTooBig | precisionTooBig => "ValueError"
  | precisionTooLarge | paddingTooLarge => "OverflowError"
  | digitLimit _ | invalidLiteral .. => "ValueError"
  | validation .. => "ValidationError"
  | breakSignal => "_BreakSignal"
  | continueSignal => "_ContinueSignal"

/-- The lower-case hexadecimal digits of `value`, without leading zeros. -/
def hexText (value : Nat) : String :=
  String.ofList (Nat.toDigits 16 value)

/-- The text of a host error. A printable ASCII character is named as it is,
any other as a question mark. -/
def message : HostError → String
  | unsupportedFormatCharacter code index =>
    let shown := if 31 ≤ code ∧ code ≤ 126 then Char.ofNat code else '?'
    s!"unsupported format character '{shown}' (0x{hexText code}) at index {index}"
  | widthTooBig => "width too big"
  | precisionTooBig => "precision too big"
  | precisionTooLarge => "precision too large"
  | paddingTooLarge => "Python int too large to convert to C ssize_t"
  | digitLimit digits =>
    s!"Exceeds the limit (4300 digits) for integer string conversion: value has {digits} digits; " ++
      "use sys.set_int_max_str_digits() to increase the limit"
  | invalidLiteral base shown => s!"invalid literal for int() with base {base}: {shown}"
  | validation node text => s!"1 validation error for {node}\n  Value error, {text}"
  | breakSignal | continueSignal => ""

end HostError

/-- Why reading a source stops: it is outside the language, or the host
refuses a step of reading it. -/
inductive ParseError where
  | compile (error : CompileError)
  | host (error : HostError)
  deriving Repr, BEq, DecidableEq

/-- Any way a run can stop short of its end. -/
inductive Failure where
  | runtime (error : RuntimeError)
  | host (error : HostError)
  deriving Repr, BEq, DecidableEq

instance : Coe RuntimeError Failure := ⟨Failure.runtime⟩

end ClassroomC
