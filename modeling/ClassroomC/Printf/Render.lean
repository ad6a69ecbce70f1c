import ClassroomC.Eval
import ClassroomC.Printf.Escape
import ClassroomC.Printf.Layout
/-!
# Rendering a `printf` call

The specifiers of the format take the arguments from left to right. Literal
text between them is printed with its escapes expanded; the raw format is
split first, so an escape never joins text across a specifier.

Problems that C would only meet at run time do not stop the program: a
specifier with no argument left, a conversion outside `d i u o x X s c`, a
string literal given to a number conversion, a number given to `%s`, and
arguments left over each add a warning, and a specifier that cannot be
filled is printed as written. `%%` prints `%` and takes no argument.

Integer conversions print the word in decimal (`d`, `i`), or its unsigned
reading in decimal (`u`), octal (`o`) or hexadecimal (`x`, `X`). The `#` flag
prefixes `0x` or `0X` to a non-zero hexadecimal value and a `0` to octal
digits that do not start with one. `%c` prints the character whose code is
the low byte of the value, or the first character of a string literal.
-/

namespace ClassroomC.Printf

/-- What rendering a call produced: the text, and the warnings in order. -/
structure Rendered where
  text : String
  warnings : Array String
  deriving Repr

/-- The conversions that print a value. -/
def supportedConversions : List Char :=
  ['d', 'i', 'u', 'o', 'x', 'X', 's', 'c']

/-- The digits of `value` in `base`, lower case. -/
def digitsIn (base : Nat) (value : Nat) : List Char :=
  Nat.toDigits base value

/-- Render a word with an integer conversion. -/
def renderInteger (spec : Spec) (value : Int) : Except HostError String :=
  let unsigned := Arith.toUnsigned value
  match spec.conversion with
  | 'd' | 'i' => do
    let options ← integerOptions spec spec.flags
    pure (layoutInteger options (value < 0) "" (digitsIn 10 value.natAbs))
  | 'u' => do
    let options ← integerOptions spec spec.flags
    pure (layoutInteger options false "" (digitsIn 10 unsigned))
  | 'o' =>
    let digits := digitsIn 8 unsigned
    let digits := if spec.hasFlag '#' && digits.head? != some '0' then '0' :: digits else digits
    padText spec true digits
  | conversion => do
    let flags := if unsigned == 0 then spec.flags.filter (· != '#') else spec.flags
    let options ← integerOptions spec flags
    let upper := conversion == 'X'
    let basePrefix := if flags.contains '#' then (if upper then "0X" else "0x") else ""
    let digits := digitsIn 16 unsigned
    pure (layoutInteger options false basePrefix (if upper then digits.map Char.toUpper else digits))

/-- The state of rendering: the pieces printed, the warnings, and the
arguments still to take with the number of those taken. -/
structure Progress where
  printed : Array String := #[]
  warnings : Array String := #[]
  taken : Nat := 0

/-- Render one specifier, taking its argument from `args`. -/
def renderSpec (store : Store) (line : Option Nat) (spec : Spec) (args : List Expr)
    (progress : Progress) : Except Failure (Progress × List Expr) := do
  let shown := spec.text
  if spec.conversion == '%' then
    return ({ progress with printed := progress.printed.push "%" }, args)
  match args with
  | [] =>
    return ({ progress with
      printed := progress.printed.push shown
      warnings := progress.warnings.push s!"format specifier '{shown}' has no matching argument" }, [])
  | arg :: rest =>
    let number := progress.taken + 1
    let progress := { progress with taken := number }
    let emit (text : String) : Progress := { progress with printed := progress.printed.push text }
    let warn (message : String) (text : String) : Progress :=
      { progress with printed := progress.printed.push text, warnings := progress.warnings.push message }
    if !supportedConversions.contains spec.conversion then
      return (warn s!"format specifier '{shown}' is not supported" shown, rest)
    if spec.conversion == 's' then
      let limit := spec.precision.map digitsValue
      let cut (text : List Char) : List Char := match limit with
        | some count => text.take count
        | none => text
      match arg with
      | .str value =>
        let text ← (padText spec false (cut value.toList)).mapError Failure.host
        return (emit text, rest)
      | _ =>
        let value ← (eval store line arg).mapError Failure.runtime
        let text ← (padText spec false (cut (toString value).toList)).mapError Failure.host
        return (warn s!"argument {number} for '{shown}' is not a string literal" text, rest)
    match arg with
    | .str value =>
      match spec.conversion, value.toList with
      | 'c', first :: _ =>
        let text ← (padText spec false [first]).mapError Failure.host
        return (emit text, rest)
      | _, _ => return (warn s!"argument {number} for '{shown}' is a string literal" shown, rest)
    | _ =>
      let value ← (eval store line arg).mapError Failure.runtime
      if spec.conversion == 'c' then
        let code := Arith.toUnsigned value % 256
        let text ← (padText spec false [Char.ofNat code]).mapError Failure.host
        return (emit text, rest)
      let text ← (renderInteger spec value).mapError Failure.host
      return (emit text, rest)

/-- Render the pieces of a format with the arguments left. -/
def renderPieces (store : Store) (line : Option Nat) :
    List Piece → List Expr → Progress → Except Failure (Progress × List Expr)
  | [], args, progress => .ok (progress, args)
  | .literal text :: more, args, progress =>
    renderPieces store line more args
      { progress with printed := progress.printed.push (String.ofList (expandEscapes text)) }
  | .spec spec :: more, args, progress => do
    let (progress, args) ← renderSpec store line spec args progress
    renderPieces store line more args progress

/-- Render `printf(format, args...)` against `store`; errors are reported at
`line`. -/
def render (store : Store) (line : Option Nat) (format : String) (args : List Expr) :
    Except Failure Rendered := do
  let (progress, left) ← renderPieces store line (pieces format.toList) args {}
  let warnings :=
    if left.isEmpty then progress.warnings
    else
      let count := left.length
      progress.warnings.push s!"{count} argument(s) not used by the format string"
  pure ⟨String.join progress.printed.toList, warnings⟩

end ClassroomC.Printf
