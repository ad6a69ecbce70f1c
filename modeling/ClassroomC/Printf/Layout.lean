import ClassroomC.Error
import ClassroomC.Printf.Spec
/-!
# Laying out a converted value

An integer field is a sign, a base prefix (`0x` or `0X`), the digits padded
with zeros to the precision, and padding to the width: zeros between the
prefix and the digits when the `0` flag is given, otherwise spaces on the
left, or spaces on the right when the `-` flag is given. The sign is `-` for a
negative value, else `+` with the `+` flag, else a space with the space flag.

Integer fields read their width and precision only in ASCII digits; a digit
of another script there stops the field with an error that names it and its
position in the field's pattern `%<flags><width>.<precision><conversion>`.
Widths beyond `2^63 - 1` and precisions beyond `2^31 - 1` are refused, and so
is a precision within three of that limit.

Text fields (characters, strings and octal numbers) read width and precision
in the digits of any script and pad with spaces, or with zeros for octal
numbers with the `0` flag.
-/

namespace ClassroomC.Printf

/-- The largest field width the host can lay out, `2^63 - 1`. -/
def widthLimit : Nat := 9223372036854775807

/-- The largest precision the host reads, `2^31 - 1`. -/
def precisionLimit : Nat := 2147483647

/-- The value of decimal digits, of any script. -/
def digitsValue (digits : List Char) : Nat :=
  digits.foldl (fun acc c => acc * 10 + (Unicode.decimalDigitValue? c).getD 0) 0

/-- The options of an integer field, read from a specifier. -/
structure IntegerOptions where
  leftAlign : Bool
  showSign : Bool
  blankSign : Bool
  zeroPad : Bool
  width : Nat
  precision : Option Nat

/-- Read the width and precision of an integer field whose pattern carries the
flags `flags` and the conversion `conversion`. -/
def integerOptions (spec : Spec) (flags : List Char) : Except HostError IntegerOptions := do
  let asciiWidth := spec.width.takeWhile Char.isDigit
  let widthRest := spec.width.drop asciiWidth.length
  let width := digitsValue asciiWidth
  if width > widthLimit then throw .widthTooBig
  match widthRest with
  | bad :: _ => throw (.unsupportedFormatCharacter bad.toNat (1 + flags.length + asciiWidth.length))
  | [] => pure ()
  let precision ← match spec.precision with
    | none => pure none
    | some digits =>
      let written := if digits.isEmpty then ['0'] else digits
      let asciiDigits := written.takeWhile Char.isDigit
      let value := digitsValue asciiDigits
      if value > precisionLimit then throw .precisionTooBig
      match written.drop asciiDigits.length with
      | bad :: _ =>
        throw (.unsupportedFormatCharacter bad.toNat
          (2 + flags.length + spec.width.length + asciiDigits.length))
      | [] => pure (some value)
  if let some value := precision then
    if value > precisionLimit - 3 then throw .precisionTooLarge
  pure {
    leftAlign := flags.contains '-'
    showSign := flags.contains '+'
    blankSign := flags.contains ' '
    zeroPad := flags.contains '0'
    width := width
    precision := precision }

/-- Lay out an integer field: the sign of `negative`, the base `basePrefix`,
and `digits`. -/
def layoutInteger (options : IntegerOptions) (negative : Bool) (basePrefix : String)
    (digits : List Char) : String :=
  let sign :=
    if negative then "-" else if options.showSign then "+" else if options.blankSign then " " else ""
  let body := List.replicate (options.precision.getD 0 - digits.length) '0' ++ digits
  let used := sign.length + basePrefix.length + body.length
  let padding := options.width - used
  if options.leftAlign then
    sign ++ basePrefix ++ String.ofList body ++ String.ofList (List.replicate padding ' ')
  else if options.zeroPad then
    sign ++ basePrefix ++ String.ofList (List.replicate padding '0' ++ body)
  else
    String.ofList (List.replicate padding ' ') ++ sign ++ basePrefix ++ String.ofList body

/-- Pad a text field to the width of `spec`: on the right with the `-` flag,
else on the left, with zeros when `zeros` is allowed and the `0` flag is
given, otherwise with spaces. -/
def padText (spec : Spec) (zeros : Bool) (text : List Char) : Except HostError String :=
  if spec.width.isEmpty then .ok (String.ofList text)
  else
    let width := digitsValue spec.width
    if width > widthLimit then .error .paddingTooLarge
    else
      let padding := width - text.length
      if spec.hasFlag '-' then .ok (String.ofList (text ++ List.replicate padding ' '))
      else if zeros && spec.hasFlag '0' then .ok (String.ofList (List.replicate padding '0' ++ text))
      else .ok (String.ofList (List.replicate padding ' ' ++ text))

end ClassroomC.Printf
