import ClassroomC.Proofs.Layout
import ClassroomC.Proofs.Representation

/-!
# Integer fields as C prints them

C11 (7.21.6.1) says how `printf` prints an `int` with `d` or `i`, and the
unsigned reading of its bits with `u`, `o`, `x` or `X`. The digits are at
least as many as the precision asks, one by default, and a zero at precision
zero has none. Only the signed conversions have a sign: `-`, else `+` with
the `+` flag, else a space with the space flag. The `#` flag puts `0x` or
`0X` before non-zero hexadecimal digits and a zero before octal digits that
do not start with one. The field is padded to the width on the right with
the `-` flag, with zeros after the sign and prefix with the `0` flag and no
precision, and with spaces on the left otherwise. C leaves `#` with `d`, `i`
and `u` undefined; here it does nothing, as in the common C libraries.

`Standard.field` writes this down. The host's layout keeps to it on the
specifiers `Spec.Portable` describes (`renderInteger_eq_standard`). Outside
them it departs from C: it gives a sign to the unsigned conversions with the
`+` or space flag, pads with zeros after a precision when the field is wider
than its digits, prints a zero at precision zero, and ignores the precision
of octal fields when it asks for more digits than the numeral has.
-/

namespace ClassroomC.Printf

namespace Standard

/-- Whether a conversion prints a signed value. -/
def signed (conversion : Char) : Bool :=
  conversion == 'd' || conversion == 'i'

/-- The number whose digits are printed: the magnitude of the value for the
signed conversions, the unsigned reading of its bits for the others. -/
def magnitude (conversion : Char) (value : Int) : Nat :=
  if signed conversion then value.natAbs else Arith.toUnsigned value

/-- The base of a conversion. -/
def base (conversion : Char) : Nat :=
  if conversion == 'o' then 8 else if conversion == 'x' || conversion == 'X' then 16 else 10

/-- The sign of the field. -/
def sign (spec : Spec) (value : Int) : List Char :=
  if signed spec.conversion then
    if value < 0 then ['-'] else if spec.hasFlag '+' then ['+'] else if spec.hasFlag ' ' then [' '] else []
  else []

/-- The base prefix of a non-zero hexadecimal value with the `#` flag. -/
def basePrefix (spec : Spec) (value : Int) : List Char :=
  if spec.hasFlag '#' && magnitude spec.conversion value != 0 then
    if spec.conversion == 'x' then ['0', 'x'] else if spec.conversion == 'X' then ['0', 'X'] else []
  else []

/-- The digits of the number, none for a zero at precision zero. -/
def numeral (spec : Spec) (value : Int) : List Char :=
  let number := magnitude spec.conversion value
  if number = 0 ∧ spec.precision.map digitsValue = some 0 then []
  else
    let written := Nat.toDigits (base spec.conversion) number
    if spec.conversion == 'X' then written.map Char.toUpper else written

/-- The digits of the field: the numeral padded with zeros to the precision,
and for octal with the `#` flag a zero in front if it has none. -/
def digits (spec : Spec) (value : Int) : List Char :=
  let padded :=
    List.replicate ((spec.precision.map digitsValue).getD 1 - (numeral spec value).length) '0' ++
      numeral spec value
  if spec.conversion == 'o' && spec.hasFlag '#' && padded.head? != some '0' then '0' :: padded
  else padded

/-- Pad a field made of a sign, a base prefix and digits to `width`. -/
def justify (leftAlign zeroPad : Bool) (width : Nat) (sign basePrefix digits : List Char) :
    List Char :=
  let padding := width - (sign.length + basePrefix.length + digits.length)
  if leftAlign then sign ++ basePrefix ++ digits ++ List.replicate padding ' '
  else if zeroPad then sign ++ basePrefix ++ List.replicate padding '0' ++ digits
  else List.replicate padding ' ' ++ sign ++ basePrefix ++ digits

/-- The field C prints for `value` with the integer conversion `spec`. -/
def field (spec : Spec) (value : Int) : List Char :=
  justify (spec.hasFlag '-') (spec.hasFlag '0' && spec.precision.isNone) (digitsValue spec.width)
    (sign spec value) (basePrefix spec value) (digits spec value)

example : field ⟨['-', '#'], ['8'], some ['4'], [], 'x'⟩ 255 = "0x00ff  ".toList := by decide
example : field ⟨['+'], [], none, [], 'u'⟩ 5 = ['5'] := by decide
example : field ⟨['0'], ['5'], some ['3'], [], 'd'⟩ 7 = "  007".toList := by decide
example : field ⟨['#'], [], some [], [], 'o'⟩ 0 = ['0'] := by decide

theorem numeral_of_shown {spec : Spec} {value : Int}
    (shown : spec.precision.map digitsValue = some 0 → magnitude spec.conversion value ≠ 0) :
    numeral spec value =
      if spec.conversion == 'X' then
        (Nat.toDigits (base spec.conversion) (magnitude spec.conversion value)).map Char.toUpper
      else Nat.toDigits (base spec.conversion) (magnitude spec.conversion value) := by
  have notZero : ¬(magnitude spec.conversion value = 0 ∧ spec.precision.map digitsValue = some 0) :=
    fun both => shown both.2 both.1
  rw [numeral, if_neg notZero]

/-- Unless a zero is printed at precision zero, the digits of an integer
field that is not octal are its numeral padded with zeros to the precision,
none by default. -/
theorem digits_of_shown {spec : Spec} {value : Int} (notOctal : spec.conversion ≠ 'o')
    (shown : spec.precision.map digitsValue = some 0 → magnitude spec.conversion value ≠ 0) :
    digits spec value =
      List.replicate ((spec.precision.map digitsValue).getD 0 - (numeral spec value).length) '0' ++
        numeral spec value := by
  have written : 1 ≤ (numeral spec value).length := by
    rw [numeral_of_shown shown]
    split
    · rw [List.length_map]
      exact List.length_pos_iff.mpr Nat.toDigits_ne_nil
    · exact List.length_pos_iff.mpr Nat.toDigits_ne_nil
  have notOctal' : (spec.conversion == 'o') = false := by simpa using notOctal
  simp only [digits, notOctal', Bool.false_and, Bool.false_eq_true, if_false]
  -- the default precision of one pads no digit onto a numeral that has one
  cases spec.precision.map digitsValue with
  | none => rw [Option.getD_none, Option.getD_none, Nat.sub_eq_zero_of_le written, Nat.zero_sub]
  | some count => rfl

/-- The digits of an octal field whose precision asks for no more digits than
its numeral has, counting the zero the `#` flag puts in front, are the
numeral with that zero. -/
theorem digits_octal {spec : Spec} {value : Int} (octal : spec.conversion = 'o')
    (fits : (spec.precision.map digitsValue).getD 0 ≤ (Nat.toDigits 8 (Arith.toUnsigned value)).length +
      (if spec.hasFlag '#' && Arith.toUnsigned value != 0 then 1 else 0))
    (shown : spec.precision.map digitsValue = some 0 → Arith.toUnsigned value ≠ 0) :
    digits spec value =
      if spec.hasFlag '#' && (Nat.toDigits 8 (Arith.toUnsigned value)).head? != some '0' then
        '0' :: Nat.toDigits 8 (Arith.toUnsigned value)
      else Nat.toDigits 8 (Arith.toUnsigned value) := by
  have written : numeral spec value = Nat.toDigits 8 (Arith.toUnsigned value) := by
    rw [numeral_of_shown (by simpa [magnitude, signed, octal] using shown)]
    simp [magnitude, signed, base, octal]
  have long : 1 ≤ (Nat.toDigits 8 (Arith.toUnsigned value)).length :=
    List.length_pos_iff.mpr Nat.toDigits_ne_nil
  -- the default precision of one asks for no digit the numeral lacks
  have asked : (spec.precision.map digitsValue).getD 1 ≤ (Nat.toDigits 8 (Arith.toUnsigned value)).length +
      (if spec.hasFlag '#' && Arith.toUnsigned value != 0 then 1 else 0) := by
    cases precise : spec.precision with
    | none =>
        simp only [Option.map_none, Option.getD_none]
        omega
    | some count => simpa [precise] using fits
  simp only [digits, written, octal, beq_self_eq_true, Bool.true_and]
  by_cases pads : (spec.precision.map digitsValue).getD 1 - (Nat.toDigits 8 (Arith.toUnsigned value)).length = 0
  · rw [pads, List.replicate_zero, List.nil_append]
  · -- the one zero the precision asks for is the one the `#` flag puts in front
    have marked : spec.hasFlag '#' = true ∧ Arith.toUnsigned value ≠ 0 := by
      by_contra unmarked
      have none : (if spec.hasFlag '#' && Arith.toUnsigned value != 0 then 1 else 0) = 0 := by
        rw [if_neg (by simpa using unmarked)]
      omega
    have one : (spec.precision.map digitsValue).getD 1 - (Nat.toDigits 8 (Arith.toUnsigned value)).length = 1 := by
      rw [if_pos (by simp [marked.1, marked.2])] at asked
      omega
    have leading := Literal.toDigits_head 8 (by decide) (Arith.toUnsigned value) (Nat.pos_of_ne_zero marked.2)
    rw [one]
    simp [marked.1, leading]

end Standard

/-- The specifiers and values whose integer fields the host lays out as C
does: an integer conversion, a width and precision the host reads, no sign
flag on an unsigned decimal or hexadecimal conversion, an octal precision
that asks for no more digits than the numeral has (counting the zero the `#`
flag puts in front), a field no wider than its sign, prefix and digits when
a precision comes with the `0` flag and no `-` flag, and no zero at precision
zero. -/
structure Spec.Portable (spec : Spec) (value : Int) : Prop where
  integer : spec.conversion ∈ ['d', 'i', 'u', 'o', 'x', 'X']
  layable : spec.integerLayable = true
  signedSign : (spec.hasFlag '+' || spec.hasFlag ' ') = true → spec.conversion ∈ ['d', 'i', 'o']
  octalPrecision : spec.conversion = 'o' →
    (spec.precision.map digitsValue).getD 0 ≤ (Nat.toDigits 8 (Arith.toUnsigned value)).length +
      (if spec.hasFlag '#' && Arith.toUnsigned value != 0 then 1 else 0)
  precisionZeros : spec.precision.isSome = true → spec.hasFlag '0' = true →
    spec.hasFlag '-' = true ∨ digitsValue spec.width ≤ (Standard.sign spec value).length +
      (Standard.basePrefix spec value).length + (Standard.digits spec value).length
  zeroShown : spec.precision.map digitsValue = some 0 → value ≠ 0

instance (spec : Spec) (value : Int) : Decidable (spec.Portable value) :=
  decidable_of_iff
    (spec.conversion ∈ ['d', 'i', 'u', 'o', 'x', 'X'] ∧ spec.integerLayable = true ∧
      ((spec.hasFlag '+' || spec.hasFlag ' ') = true → spec.conversion ∈ ['d', 'i', 'o']) ∧
      (spec.conversion = 'o' →
        (spec.precision.map digitsValue).getD 0 ≤ (Nat.toDigits 8 (Arith.toUnsigned value)).length +
          (if spec.hasFlag '#' && Arith.toUnsigned value != 0 then 1 else 0)) ∧
      (spec.precision.isSome = true → spec.hasFlag '0' = true →
        spec.hasFlag '-' = true ∨ digitsValue spec.width ≤ (Standard.sign spec value).length +
          (Standard.basePrefix spec value).length + (Standard.digits spec value).length) ∧
      (spec.precision.map digitsValue = some 0 → value ≠ 0))
    ⟨fun ⟨a, b, c, d, e, f⟩ => ⟨a, b, c, d, e, f⟩, fun ⟨a, b, c, d, e, f⟩ => ⟨a, b, c, d, e, f⟩⟩

-- A precision the octal numeral already fills, and one that pads no field.
example : Spec.Portable ⟨[], [], some ['1'], [], 'o'⟩ 8 ∧
    Spec.Portable ⟨['0'], ['1'], some ['3'], [], 'd'⟩ 7 := by decide

-- An octal precision that asks for a digit more, and zeros padding a field.
example : ¬ Spec.Portable ⟨[], [], some ['3'], [], 'o'⟩ 8 ∧
    ¬ Spec.Portable ⟨['0'], ['5'], some ['3'], [], 'd'⟩ 7 := by decide

/-- An integer field whose width and precision the host reads has the
options its flags, width and precision say. -/
theorem integerOptions_of_layable {spec : Spec} (layable : spec.integerLayable = true) (flags : List Char) :
    integerOptions spec flags = .ok ⟨flags.contains '-', flags.contains '+', flags.contains ' ',
      flags.contains '0', digitsValue spec.width, spec.precision.map digitsValue⟩ := by
  obtain ⟨flags', width, precision, modifier, conversion⟩ := spec
  simp only [Spec.integerLayable, Bool.and_eq_true, decide_eq_true_eq] at layable
  obtain ⟨⟨widthAscii, widthFits⟩, precisionFits⟩ := layable
  unfold integerOptions
  simp only [takeWhile_digits widthAscii, List.drop_length, gt_iff_lt, Nat.not_lt.mpr widthFits,
    if_false, bind, Except.bind, pure, Except.pure]
  cases precision with
  | none => rfl
  | some digits =>
      simp only [Bool.and_eq_true, decide_eq_true_eq] at precisionFits
      obtain ⟨digitsAscii, digitsFit⟩ := precisionFits
      -- an empty precision is read as the digit zero
      cases digits with
      | nil =>
          have zeroDigits : ['0'].takeWhile Char.isDigit = ['0'] := by decide
          have zeroValue : digitsValue ['0'] = 0 := by decide
          simp only [List.isEmpty_nil, if_true, zeroDigits, zeroValue, List.drop_length,
            Nat.not_lt_zero, if_false]
          rfl
      | cons first more =>
          have sameDigits := takeWhile_digits digitsAscii
          simp only [List.isEmpty_cons, Bool.false_eq_true, if_false, sameDigits, List.drop_length,
            Nat.not_lt.mpr digitsFit, Nat.not_lt.mpr (Nat.le_trans digitsFit (Nat.sub_le _ _)),
            if_false]
          rfl

/-- The host's layout is the justification of its sign, prefix and
zero-padded digits. -/
theorem layoutInteger_eq_justify (options : IntegerOptions) (negative : Bool) (basePrefix : String)
    (digits : List Char) :
    layoutInteger options negative basePrefix digits =
      String.ofList (Standard.justify options.leftAlign options.zeroPad options.width
        (if negative then ['-'] else if options.showSign then ['+'] else if options.blankSign then [' '] else [])
        basePrefix.toList (List.replicate (options.precision.getD 0 - digits.length) '0' ++ digits)) := by
  rw [← String.toList_inj]
  have signText : (if negative then "-" else if options.showSign then "+" else if options.blankSign then " " else "") =
      String.ofList (if negative then ['-'] else if options.showSign then ['+']
        else if options.blankSign then [' '] else []) := by
    split_ifs <;> rfl
  simp only [layoutInteger, Standard.justify, signText, String.toList_ofList, String.length_ofList]
  split_ifs <;> simp [String.length_toList]

/-- The host pads a text field as C justifies a field of digits alone. -/
theorem padText_eq_justify {spec : Spec} (fits : digitsValue spec.width ≤ widthLimit) (text : List Char) :
    padText spec true text =
      .ok (String.ofList (Standard.justify (spec.hasFlag '-') (spec.hasFlag '0') (digitsValue spec.width)
        [] [] text)) := by
  unfold padText
  split
  · next noWidth =>
    have zero : digitsValue spec.width = 0 := by
      rw [List.isEmpty_iff.mp noWidth]
      rfl
    simp [Standard.justify, zero]
  · simp only [gt_iff_lt, Nat.not_lt.mpr fits, if_false, Bool.true_and]
    simp only [Standard.justify, List.nil_append, List.length_nil, Nat.zero_add]
    split_ifs <;> simp [String.ofList_append]

/-- Without the `-` flag, the `0` flag after a precision pads with zeros
where C pads with blanks; the two agree where there is nothing to pad. -/
theorem justify_zeroPad {spec : Spec} {width : Nat} {sign basePrefix digits : List Char}
    (precisionZeros : spec.precision.isSome = true → spec.hasFlag '0' = true →
      spec.hasFlag '-' = true ∨ width ≤ sign.length + basePrefix.length + digits.length) :
    Standard.justify (spec.hasFlag '-') (spec.hasFlag '0') width sign basePrefix digits =
      Standard.justify (spec.hasFlag '-') (spec.hasFlag '0' && spec.precision.isNone) width sign
        basePrefix digits := by
  cases left : spec.hasFlag '-'
  · cases precise : spec.precision with
    | none => simp
    | some count =>
        cases zero : spec.hasFlag '0'
        · rfl
        · have filled : width ≤ sign.length + basePrefix.length + digits.length := by
            simpa [precise, zero, left] using precisionZeros
          have unpadded : width - (sign.length + basePrefix.length + digits.length) = 0 := by omega
          simp [Standard.justify, unpadded]
  · rfl

/-- A field the host lays out from its integer options is the field C prints
when the flags it reads are the specifier's, and its sign, base prefix and
numeral are C's. -/
theorem layout_eq_field {spec : Spec} {value : Int} (portable : spec.Portable value)
    (notOctal : spec.conversion ≠ 'o')
    (shown : spec.precision.map digitsValue = some 0 → Standard.magnitude spec.conversion value ≠ 0)
    {flags : List Char} {negative : Bool} {basePrefix : String} {numeral : List Char}
    (sameFlags : flags.contains '-' = spec.hasFlag '-' ∧ flags.contains '0' = spec.hasFlag '0')
    (signEq : (if negative then ['-'] else if flags.contains '+' then ['+']
      else if flags.contains ' ' then [' '] else []) = Standard.sign spec value)
    (prefixEq : basePrefix.toList = Standard.basePrefix spec value)
    (numeralEq : numeral = Standard.numeral spec value) :
    (integerOptions spec flags).map (fun options => layoutInteger options negative basePrefix numeral) =
      .ok (String.ofList (Standard.field spec value)) := by
  rw [integerOptions_of_layable portable.layable]
  dsimp only [Except.map]
  rw [layoutInteger_eq_justify, Standard.field, ← justify_zeroPad portable.precisionZeros,
    Standard.digits_of_shown notOctal shown]
  dsimp only
  rw [sameFlags.1, sameFlags.2, signEq, prefixEq, numeralEq]

theorem renderInteger_signed {spec : Spec} {value : Int} (portable : spec.Portable value)
    (signed : spec.conversion = 'd' ∨ spec.conversion = 'i') :
    renderInteger spec value = .ok (String.ofList (Standard.field spec value)) := by
  have shown : spec.precision.map digitsValue = some 0 → Standard.magnitude spec.conversion value ≠ 0 := by
    intro precise
    have nonzero := portable.zeroShown precise
    rcases signed with same | same <;> simpa [Standard.magnitude, Standard.signed, same] using nonzero
  have layout : renderInteger spec value =
      (integerOptions spec spec.flags).map fun options =>
        layoutInteger options (value < 0) "" (digitsIn 10 value.natAbs) := by
    unfold renderInteger
    rcases signed with same | same <;> rw [same] <;> rfl
  have notOctal : spec.conversion ≠ 'o' := by rcases signed with same | same <;> simp [same]
  rw [layout]
  refine layout_eq_field portable notOctal shown ⟨rfl, rfl⟩ ?sign ?basePrefix ?numeral
  case sign => rcases signed with same | same <;> simp [Standard.sign, Standard.signed, same, Spec.hasFlag]
  case basePrefix => rcases signed with same | same <;> simp [Standard.basePrefix, same]
  case numeral =>
    rw [Standard.numeral_of_shown shown]
    rcases signed with same | same <;> simp [Standard.base, Standard.magnitude, Standard.signed, digitsIn, same]

theorem toUnsigned_ne_zero {value : Int} (word : Arith.IsWord value) (nonzero : value ≠ 0) :
    Arith.toUnsigned value ≠ 0 := by
  obtain ⟨lower, upper⟩ := word
  simp only [Arith.toUnsigned, Arith.modulus]
  omega

theorem renderInteger_unsignedDecimal {spec : Spec} {value : Int} (word : Arith.IsWord value)
    (portable : spec.Portable value) (unsigned : spec.conversion = 'u') :
    renderInteger spec value = .ok (String.ofList (Standard.field spec value)) := by
  have shown : spec.precision.map digitsValue = some 0 → Standard.magnitude spec.conversion value ≠ 0 := by
    intro precise
    simpa [Standard.magnitude, Standard.signed, unsigned] using
      toUnsigned_ne_zero word (portable.zeroShown precise)
  have noSign : '+' ∉ spec.flags ∧ ' ' ∉ spec.flags := by
    simpa [Spec.hasFlag] using mt portable.signedSign (by simp [unsigned])
  have layout : renderInteger spec value =
      (integerOptions spec spec.flags).map fun options =>
        layoutInteger options false "" (digitsIn 10 (Arith.toUnsigned value)) := by
    unfold renderInteger
    rw [unsigned]
    rfl
  rw [layout]
  refine layout_eq_field portable (by simp [unsigned]) shown ⟨rfl, rfl⟩ ?sign ?basePrefix ?numeral
  case sign => simp [Standard.sign, Standard.signed, unsigned, noSign]
  case basePrefix => simp [Standard.basePrefix, unsigned]
  case numeral =>
    rw [Standard.numeral_of_shown shown]
    simp [Standard.base, Standard.magnitude, Standard.signed, digitsIn, unsigned]

theorem renderInteger_octal {spec : Spec} {value : Int} (word : Arith.IsWord value)
    (portable : spec.Portable value) (octal : spec.conversion = 'o') :
    renderInteger spec value = .ok (String.ofList (Standard.field spec value)) := by
  have fits : digitsValue spec.width ≤ widthLimit := by
    have layable := portable.layable
    simp only [Spec.integerLayable, Bool.and_eq_true, decide_eq_true_eq] at layable
    exact layable.1.2
  have layout : renderInteger spec value =
      padText spec true
        (if spec.hasFlag '#' && (digitsIn 8 (Arith.toUnsigned value)).head? != some '0' then
          '0' :: digitsIn 8 (Arith.toUnsigned value)
        else digitsIn 8 (Arith.toUnsigned value)) := by
    unfold renderInteger
    rw [octal]
    rfl
  -- the host ignores the precision, which asks for no digit it does not print
  have sameDigits := Standard.digits_octal octal (portable.octalPrecision octal)
    (fun precise => toUnsigned_ne_zero word (portable.zeroShown precise))
  have noSign : Standard.sign spec value = [] := by simp [Standard.sign, Standard.signed, octal]
  have noPrefix : Standard.basePrefix spec value = [] := by simp [Standard.basePrefix, octal]
  have zeros := portable.precisionZeros
  rw [noSign, noPrefix, sameDigits] at zeros
  rw [layout, padText_eq_justify fits, Standard.field, noSign, noPrefix, sameDigits, digitsIn,
    justify_zeroPad zeros]

theorem renderInteger_hex {spec : Spec} {value : Int} (word : Arith.IsWord value)
    (portable : spec.Portable value) (hex : spec.conversion = 'x' ∨ spec.conversion = 'X') :
    renderInteger spec value = .ok (String.ofList (Standard.field spec value)) := by
  have shown : spec.precision.map digitsValue = some 0 → Standard.magnitude spec.conversion value ≠ 0 := by
    intro precise
    rcases hex with same | same <;> simpa [Standard.magnitude, Standard.signed, same] using
      toUnsigned_ne_zero word (portable.zeroShown precise)
  have noSign : '+' ∉ spec.flags ∧ ' ' ∉ spec.flags := by
    have notSigned : spec.conversion ∉ ['d', 'i', 'o'] := by rcases hex with same | same <;> simp [same]
    simpa [Spec.hasFlag] using mt portable.signedSign notSigned
  have notOctal : spec.conversion ≠ 'o' := by rcases hex with same | same <;> simp [same]
  -- a zero value is laid out without its `#` flag
  let flags := if Arith.toUnsigned value == 0 then spec.flags.filter (· != '#') else spec.flags
  have layout : renderInteger spec value =
      (integerOptions spec flags).map fun options =>
        let upper := spec.conversion == 'X'
        layoutInteger options false (if flags.contains '#' then (if upper then "0X" else "0x") else "")
          (if upper then (digitsIn 16 (Arith.toUnsigned value)).map Char.toUpper
          else digitsIn 16 (Arith.toUnsigned value)) := by
    unfold renderInteger
    rcases hex with same | same <;> rw [same] <;> rfl
  rw [layout]
  refine layout_eq_field portable notOctal shown ?sameFlags ?sign ?basePrefix ?numeral
  case sameFlags => by_cases zero : Arith.toUnsigned value = 0 <;> simp [flags, zero, Spec.hasFlag]
  case sign =>
    rcases hex with same | same <;> by_cases zero : Arith.toUnsigned value = 0 <;>
      simp [flags, zero, Standard.sign, Standard.signed, same, noSign]
  case basePrefix =>
    rcases hex with same | same <;> by_cases zero : Arith.toUnsigned value = 0 <;>
      simp [flags, zero, Standard.basePrefix, Standard.magnitude, Standard.signed, same, Spec.hasFlag] <;>
      split_ifs <;> rfl
  case numeral =>
    rw [Standard.numeral_of_shown shown]
    rcases hex with same | same <;> simp [Standard.base, Standard.magnitude, Standard.signed, digitsIn, same]

/-- On the portable specifiers, the host prints an integer field exactly as
C does. -/
theorem renderInteger_eq_standard {spec : Spec} {value : Int} (word : Arith.IsWord value)
    (portable : spec.Portable value) :
    renderInteger spec value = .ok (String.ofList (Standard.field spec value)) := by
  have integer := portable.integer
  simp only [List.mem_cons, List.mem_nil_iff, or_false] at integer
  rcases integer with same | same | same | same | same | same
  · exact renderInteger_signed portable (.inl same)
  · exact renderInteger_signed portable (.inr same)
  · exact renderInteger_unsignedDecimal word portable same
  · exact renderInteger_octal word portable same
  · exact renderInteger_hex word portable (.inl same)
  · exact renderInteger_hex word portable (.inr same)

-- Off the portable specifiers the host departs from C: `%+u` of 5.
example : renderInteger ⟨['+'], [], none, [], 'u'⟩ 5 = .ok "+5" ∧
    Standard.field ⟨['+'], [], none, [], 'u'⟩ 5 = ['5'] := ⟨rfl, by decide⟩

/-- A portable specifier takes a number argument that evaluates to a word and
prints the field C prints for it. -/
theorem integer_fields_follow_standard {store : Store} {line : Option Nat} {spec : Spec} {arg : Expr}
    {rest : List Expr} {progress : Progress} {value : Int} (portable : spec.Portable value)
    (word : Arith.IsWord value) (number : ∀ text, arg ≠ .str text) (evaluates : eval store line arg = .ok value) :
    renderSpec store line spec (arg :: rest) progress =
      .ok ({ progress with
        taken := progress.taken + 1
        printed := progress.printed.push (String.ofList (Standard.field spec value)) }, rest) := by
  have integer := portable.integer
  simp only [List.mem_cons, List.mem_nil_iff, or_false] at integer
  -- an integer conversion takes its argument and is neither `%`, `s` nor `c`
  have conversion : spec.conversion ≠ '%' ∧ supportedConversions.contains spec.conversion = true ∧
      spec.conversion ≠ 's' ∧ spec.conversion ≠ 'c' := by
    rcases integer with same | same | same | same | same | same <;> simp [same, supportedConversions]
  obtain ⟨notPercent, supported, notString, notChar⟩ := conversion
  unfold renderSpec
  simp only [beq_iff_eq, notPercent, supported, notString, notChar, if_false, Bool.not_true]
  simp only [Bool.false_eq_true, if_false]
  rw [evaluates]
  show (Except.mapError Failure.host (renderInteger spec value) >>= _) = _
  rw [renderInteger_eq_standard word portable]
  rfl

theorem integer_fields_follow_standard_alternateHex :
    renderSpec Store.empty none ⟨['-', '#'], ['8'], some ['4'], [], 'x'⟩ [.int 255] {} =
      .ok ({ ({} : Progress) with
        taken := ({} : Progress).taken + 1
        printed := ({} : Progress).printed.push
          (String.ofList (Standard.field ⟨['-', '#'], ['8'], some ['4'], [], 'x'⟩ 255)) }, []) :=
  integer_fields_follow_standard (by decide) ⟨by decide, by decide⟩ (fun _ same => Expr.noConfusion same) rfl

end ClassroomC.Printf
