import ClassroomC.Input.Binary64
import ClassroomC.Unicode.Space
/-!
# Values as they arrive from outside

Settings and records arrive as loosely typed values: numbers, truth values,
texts and lists. Reading one as an integer is lenient but never guesses: a
truth value counts as `1` or `0`, an integer is taken as it is, and a number
with a fraction or an exponent is taken as the nearest binary64 value, which
must be whole and lie strictly between `-2^63` and `2^63`. A text is read as
a decimal integer, as it stands or else after trimming its white space, with
one optional sign, leading zeros, single underscores between digits and an
optional fraction made of zeros only (`" 12 "`, `"+5"`, `"-01"`, `"1_0"` and
`"1.0"` are read, `"1."`, `"1_"`, `"+-1"`, `"1.5"` and `"abc"` are not). Only
a text that is a plain integer as it stands is too large, when it has more
than 4300 digits. A text is read only from a text.
-/

namespace ClassroomC

/-- A value as it arrives from outside, before it is checked: an integer, a
decimal number `mantissa / 10^exponent` written with a fraction or an
exponent, a truth value, a text, a list, or a value of another kind. -/
inductive RawValue where
  | integer (value : Int)
  | decimal (mantissa : Int) (exponent : Nat)
  | truth (value : Bool)
  | text (value : String)
  | list (items : List RawValue)
  | other
  deriving Repr, Inhabited

/-- Why a value is refused; each reason has a fixed code. -/
inductive Refusal where
  | missing
  /-- A text that is no integer. -/
  | notAnInteger
  /-- A text, or a number, too large to read. -/
  | tooLarge
  /-- A number with a fractional part. -/
  | fractional
  /-- A number too large to be finite. -/
  | notFinite
  /-- A value of a kind that is never an integer. -/
  | wrongKind
  /-- An integer that is not positive. -/
  | notPositive
  /-- A value that is not a text. -/
  | notText
  /-- A text that is none of the allowed choices. -/
  | notAChoice
  /-- A value that is not a list. -/
  | notAList
  /-- A value that is not a record of fields. -/
  | notARecord
  deriving Repr, BEq, DecidableEq

/-- The code of a refusal. -/
def Refusal.code : Refusal → String
  | .missing => "missing"
  | .notAnInteger => "int_parsing"
  | .tooLarge => "int_parsing_size"
  | .fractional => "int_from_float"
  | .notFinite => "finite_number"
  | .wrongKind => "int_type"
  | .notPositive => "greater_than"
  | .notText => "string_type"
  | .notAChoice => "enum"
  | .notAList => "list_type"
  | .notARecord => "model_type"

/-- One step of the path to a refused value: a field of a record, or a
position in a list. -/
inductive PathStep where
  | field (name : String)
  | index (position : Nat)
  deriving Repr, BEq, DecidableEq

/-- A refused value: where it is, and why. -/
structure Refused where
  path : List PathStep
  reason : Refusal
  deriving Repr, BEq, DecidableEq

namespace RawValue

/-- The value of a string of ASCII digits. -/
def digitsValue (digits : List Char) : Nat :=
  digits.foldl (fun value digit => 10 * value + (digit.toNat - '0'.toNat)) 0

/-- The most digits a plain integer may have. -/
def digitLimit : Nat := 4300

/-- Read a plain integer: an optional minus sign, then `0` alone or ASCII
digits that do not start with `0`. A run of more than `digitLimit` digits
that starts with a nonzero digit is too large, whatever follows it. -/
def readPlain (text : List Char) : Except Refusal Int :=
  let (negative, digits) := match text with
    | '-' :: rest => (true, rest)
    | rest => (false, rest)
  let sign : Int := if negative then -1 else 1
  match digits with
  | ['0'] => .ok 0
  | first :: _ =>
    if first != '0' && first.isDigit then
      let run := digits.takeWhile Char.isDigit
      if run.length > digitLimit then .error .tooLarge
      else if run.length == digits.length then .ok (sign * digitsValue digits)
      else .error .notAnInteger
    else .error .notAnInteger
  | [] => .error .notAnInteger

/-- What follows a run of leading zeros and underscores, whose last character
was `previous`: a nonzero digit or a minus sign starts what is kept, a point
keeps the character before it, and the end keeps that last character alone.
Any other character makes the text no number. -/
def afterZeros (previous : Char) : List Char → Option (List Char)
  | [] => some [previous]
  | c :: rest =>
    if c == '0' || c == '_' then afterZeros c rest
    else if c.isDigit || c == '-' then some (c :: rest)
    else if c == '.' then some (previous :: c :: rest)
    else none

/-- Drop the zeros, and the underscores among them, that lead a number; a
number that starts with a nonzero digit is kept as it is, and a text that
starts with anything but a digit is no number. A minus sign after the zeros
is kept, so `"0-1"` becomes `"-1"`. -/
def dropLeadingZeros : List Char → Option (List Char)
  | '0' :: rest => afterZeros '0' rest
  | text@(c :: _) => if c.isDigit then some text else none
  | [] => none

/-- The part before the first `.`, when the part after it is made of one or
more zeros; otherwise the text itself. -/
def dropZeroFraction (text : List Char) : List Char :=
  match text.span (· != '.') with
  | (whole, '.' :: fraction@(_ :: _)) => if fraction.all (· == '0') then whole else text
  | _ => text

/-- Whether two underscores stand side by side. -/
def doubleUnderscore : List Char → Bool
  | '_' :: '_' :: _ => true
  | _ :: rest => doubleUnderscore rest
  | [] => false

/-- The text without its underscores, which may only stand singly between
other characters: a text that starts or ends with one, or has two side by
side, is kept as it is. -/
def dropUnderscores (text : List Char) : List Char :=
  if text.head? == some '_' || text.getLast? == some '_' || doubleUnderscore text then text
  else text.filter (· != '_')

/-- The text made plain: trimmed of white space, with one sign taken off, the
leading zeros, a fraction made of zeros and single underscores dropped from
the number after the sign, and a minus sign put back. A number after the
sign that does not start with a digit makes the text no number. -/
def cleaned (text : String) : Option (List Char) := do
  let trimmed := ((text.toList.dropWhile Unicode.isWhiteSpace).reverse.dropWhile
    Unicode.isWhiteSpace).reverse
  let (negative, body) := match trimmed with
    | '-' :: rest => (true, rest)
    | '+' :: rest => (false, rest)
    | rest => (false, rest)
  let number ← dropLeadingZeros body
  let number := dropUnderscores (dropZeroFraction number)
  pure (if negative then '-' :: number else number)

/-- Read a text as an integer. A text that is a plain integer as it stands is
read so, and one whose digits run past the limit is too large. Any other
text is read once more after it is made plain; then it is a plain integer or
no integer at all, however long its digits run. -/
def readText (text : String) : Except Refusal Int :=
  match readPlain text.toList with
  | .ok value => .ok value
  | .error .tooLarge => .error .tooLarge
  | .error _ =>
    match (cleaned text).map readPlain with
    | some (.ok value) => .ok value
    | _ => .error .notAnInteger

/-- The bound of a signed 64-bit word: numbers with a fraction or an
exponent must lie strictly between its negation and it. -/
def wordBound : Int := Int.pow 2 63

/-- Read a value as an integer. -/
def toInteger : RawValue → Except Refusal Int
  | .integer value => .ok value
  | .decimal mantissa exponent =>
    match Binary64.ofDecimal mantissa exponent with
    | .infinite _ => .error .notFinite
    | number =>
      match number.toInt? with
      | none => .error .fractional
      | some value => if -wordBound < value && value < wordBound then .ok value else .error .tooLarge
  | .truth value => .ok (if value then 1 else 0)
  | .text value => readText value
  | .list _ | .other => .error .wrongKind

/-- Read a value as a positive integer. -/
def toPositive (raw : RawValue) : Except Refusal Nat := do
  let value ← raw.toInteger
  if value ≤ 0 then throw .notPositive
  pure value.toNat

/-- Read a value as a text; nothing else is taken for one. -/
def toText : RawValue → Except Refusal String
  | .text value => .ok value
  | _ => .error .notText

end RawValue

end ClassroomC
