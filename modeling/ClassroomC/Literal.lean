import ClassroomC.Error
import ClassroomC.Text.Quoted
import ClassroomC.Unicode.Digit
import ClassroomC.Unicode.Space
/-!
# Integer and character literals

An integer literal is hexadecimal after `0x` or `0X`, octal when it has a
leading zero and more digits, and decimal otherwise. Digits are read in the
lenient way of integer conversion: decimal digits of any script count, blanks
around the number are ignored, a sign may lead, and single underscores may
separate digits. A literal that is not octal although it starts with a zero is
refused as an invalid octal literal; other unreadable texts are refused by the
conversion itself, and so is a decimal literal of more than `digitLimit`
digits. Octal and hexadecimal literals have no such limit.

A character literal stands for the code of its one character, or of one of
the escapes `\n \t \r \0 \\ \' \"`.
-/

namespace ClassroomC.Literal

/-- Why a literal cannot be read. -/
inductive LiteralError where
  /-- A literal with a leading zero whose digits are not octal. -/
  | invalidOctal (text : String)
  /-- A character literal that is not one character or one known escape. -/
  | invalidChar (text : String)
  /-- A text that integer conversion in base `base` refuses. -/
  | notANumber (base : Nat) (text : String)
  /-- A decimal literal of `digits` digits, more than conversion accepts. -/
  | tooManyDigits (digits : Nat)
  deriving Repr, BEq, DecidableEq

namespace LiteralError

/-- How integer conversion shows a text it refuses: quoted, and cut after
200 characters. -/
def shownText (text : String) : String :=
  String.ofList ((Text.quote text).toList.take 200)

/-- The text of the refusal. -/
def message : LiteralError → String
  | .invalidOctal text => s!"Invalid octal literal: {text}"
  | .invalidChar text => s!"Invalid character literal: {text}"
  | .notANumber base text => (HostError.invalidLiteral base (shownText text)).message
  | .tooManyDigits digits => (HostError.digitLimit digits).message

/-- The refusal as the parser reports it at `line`: the refusals of integer
conversion are the host's, the others are compile errors. -/
def toParseError (error : LiteralError) (line : Option Nat) : ParseError :=
  match error with
  | .notANumber base text => .host (.invalidLiteral base (shownText text))
  | .tooManyDigits digits => .host (.digitLimit digits)
  | _ => .compile ⟨error.message, line⟩

end LiteralError

/-- The value of `c` as a digit in `base` (at most 16), if it is one. Decimal
digits of every script count; the letters `a` to `f` in either case are the
digits ten to fifteen. -/
def digitValue? (base : Nat) (c : Char) : Option Nat :=
  let value? :=
    match Unicode.decimalDigitValue? c with
    | some value => some value
    | none =>
      if 'a' ≤ c && c ≤ 'f' then some (c.toNat - 'a'.toNat + 10)
      else if 'A' ≤ c && c ≤ 'F' then some (c.toNat - 'A'.toNat + 10)
      else none
  value?.filter (· < base)

/-- Read digits in `base` after `acc`, where single underscores may stand
between two digits. -/
def readDigits (base : Nat) (acc : Nat) : List Char → Option Nat
  | [] => some acc
  | '_' :: c :: rest =>
    match digitValue? base c with
    | some digit => readDigits base (acc * base + digit) rest
    | none => none
  | c :: rest =>
    match digitValue? base c with
    | some digit => readDigits base (acc * base + digit) rest
    | none => none

/-- Read an unsigned numeral: a base prefix is allowed in bases 8 and 16 and
may be followed by an underscore; at least one digit must follow. -/
def readNumeral (base : Nat) (cs : List Char) : Option Nat :=
  let afterPrefix :=
    match cs with
    | '0' :: p :: rest =>
      if (base == 16 && (p == 'x' || p == 'X')) || (base == 8 && (p == 'o' || p == 'O')) then
        match rest with
        | '_' :: more => some more
        | _ => some rest
      else none
    | _ => none
  let digits := afterPrefix.getD cs
  match digits with
  | c :: rest =>
    match digitValue? base c with
    | some digit => readDigits base digit rest
    | none => none
  | [] => none

/-- Integer conversion of `text` in `base`: white space around, an optional
sign, then a numeral. The information separators `U+001C`–`U+001F` are not
white space here. -/
def readInt (base : Nat) (text : String) : Option Int :=
  let trimmed := ((text.toList.dropWhile Unicode.isWhiteSpace).reverse.dropWhile
    Unicode.isWhiteSpace).reverse
  let (negative, body) :=
    match trimmed with
    | '-' :: rest => (true, rest)
    | '+' :: rest => (false, rest)
    | cs => (false, cs)
  (readNumeral base body).map fun value => if negative then -(value : Int) else value

/-- The most digits integer conversion reads in a base that is not a power
of two. -/
def digitLimit : Nat := 4300

/-- The number of decimal digits of a text. -/
def decimalDigits (text : String) : Nat :=
  (text.toList.filter Unicode.isDecimalDigit).length

/-- The value of an integer literal. -/
def ofInt (text : String) : Except LiteralError Int :=
  let cs := text.toList
  match cs with
  | '0' :: x :: _ =>
    if x == 'x' || x == 'X' then
      match readInt 16 text with
      | some value => .ok value
      | none => .error (.notANumber 16 text)
    else
      match readInt 8 text with
      | some value => .ok value
      | none => .error (.invalidOctal text)
  | _ =>
    if decimalDigits text > digitLimit then .error (.tooManyDigits (decimalDigits text))
    else
      match readInt 10 text with
      | some value => .ok value
      | none => .error (.notANumber 10 text)

/-- The character an escape letter stands for in a character literal. -/
def escapedChar? : Char → Option Char
  | 'n' => some '\n'
  | 't' => some '\t'
  | 'r' => some '\r'
  | '0' => some '\x00'
  | '\\' => some '\\'
  | '\'' => some '\''
  | '"' => some '"'
  | _ => none

/-- The code of a character literal, written with its quotes. -/
def ofChar (text : String) : Except LiteralError Nat :=
  let body := (text.toList.drop 1).dropLast
  match body with
  | [c] => .ok c.toNat
  | ['\\', e] =>
    match escapedChar? e with
    | some c => .ok c.toNat
    | none => .error (.invalidChar text)
  | _ => .error (.invalidChar text)

end ClassroomC.Literal
