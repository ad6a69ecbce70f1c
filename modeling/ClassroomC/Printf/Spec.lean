import ClassroomC.Unicode.Digit
/-!
# Conversion specifiers

A format is literal text with conversion specifiers in it. A specifier is `%`,
then flags from `- + space 0 #`, an optional width, an optional precision
(`.` and digits, possibly none), an optional length modifier (`hh h ll l z`)
and a conversion letter or `%`. Width and precision digits are decimal digits
of any script.

Flags and digits are taken greedily. The length modifiers are tried in the
order `hh h ll l z` and then none, each followed by a conversion character, so
`%hh` at the end of a format is the conversion `h` with modifier `h`. Where no
specifier can be read, the `%` is literal text and reading goes on after it.
-/

namespace ClassroomC.Printf

/-- A conversion specifier as written. -/
structure Spec where
  flags : List Char
  width : List Char
  precision : Option (List Char)
  modifier : List Char
  conversion : Char
  deriving Repr, BEq, DecidableEq

namespace Spec

/-- Whether `c` is a flag character. -/
def isFlag (c : Char) : Bool :=
  c == '-' || c == '+' || c == ' ' || c == '0' || c == '#'

/-- Whether `c` may be a conversion character. -/
def isConversion (c : Char) : Bool :=
  c.isAlpha || c == '%'

/-- The text of the specifier, as written. -/
def text (spec : Spec) : String :=
  let precision := match spec.precision with
    | some digits => '.' :: digits
    | none => []
  String.ofList ('%' :: spec.flags ++ spec.width ++ precision ++ spec.modifier ++ [spec.conversion])

/-- Whether the flag `flag` is given. -/
def hasFlag (spec : Spec) (flag : Char) : Bool :=
  spec.flags.contains flag

/-- A length modifier and a conversion character at the front, tried in the
order `hh h ll l z`, then no modifier. -/
def modifierAndConversion : List Char → Option (List Char × Char)
  | 'h' :: 'h' :: c :: _ => if isConversion c then some (['h', 'h'], c) else some (['h'], 'h')
  | 'h' :: c :: _ => if isConversion c then some (['h'], c) else some ([], 'h')
  | 'l' :: 'l' :: c :: _ => if isConversion c then some (['l', 'l'], c) else some (['l'], 'l')
  | 'l' :: c :: _ => if isConversion c then some (['l'], c) else some ([], 'l')
  | 'z' :: c :: _ => if isConversion c then some (['z'], c) else some ([], 'z')
  | c :: _ => if isConversion c then some ([], c) else none
  | [] => none

/-- Read a specifier from the text after a `%`, with the number of characters
it takes. -/
def read? (cs : List Char) : Option (Spec × Nat) :=
  let flags := cs.takeWhile isFlag
  let afterFlags := cs.drop flags.length
  let width := afterFlags.takeWhile Unicode.isDecimalDigit
  let afterWidth := afterFlags.drop width.length
  let withPrecision : Option (Spec × Nat) :=
    match afterWidth with
    | '.' :: rest =>
      let digits := rest.takeWhile Unicode.isDecimalDigit
      (modifierAndConversion (rest.drop digits.length)).map fun (modifier, conversion) =>
        (⟨flags, width, some digits, modifier, conversion⟩,
          flags.length + width.length + 1 + digits.length + modifier.length + 1)
    | _ => none
  match withPrecision with
  | some found => some found
  | none =>
    (modifierAndConversion afterWidth).map fun (modifier, conversion) =>
      (⟨flags, width, none, modifier, conversion⟩,
        flags.length + width.length + modifier.length + 1)

end Spec

/-- A piece of a format: literal text, or a specifier. -/
inductive Piece where
  | literal (text : List Char)
  | spec (spec : Spec)
  deriving Repr, BEq

/-- Split a format into literal text and specifiers, left to right. Adjacent
literal characters are gathered into one piece. -/
def pieces (format : List Char) : List Piece :=
  go [] format
where
  /-- `pending` is the literal text read so far, in reverse. -/
  go (pending : List Char) : List Char → List Piece
    | '%' :: rest =>
      match Spec.read? rest with
      | some (spec, taken) =>
        let tail := go [] (rest.drop taken)
        if pending.isEmpty then .spec spec :: tail
        else .literal pending.reverse :: .spec spec :: tail
      | none => go ('%' :: pending) rest
    | c :: rest => go (c :: pending) rest
    | [] => if pending.isEmpty then [] else [.literal pending.reverse]
  termination_by cs => cs.length
  decreasing_by
    all_goals simp only [List.length_cons, List.length_drop]
    all_goals omega

end ClassroomC.Printf
