import ClassroomC.Printf.Render
import ClassroomC.Proofs.Printing

/-!
# Printed integers read back as literals

The integer conversions of `printf` print numerals that the literal reader
of the language reads back: `%d` gives the decimal numeral of the value with
a minus before a negative one, `%u` the decimal numeral of the unsigned
reading, `%#x` and `%#X` a hexadecimal numeral behind `0x` or `0X`, and
`%#o` an octal numeral behind one leading zero. A zero is printed as `0` by
each of them, which reads as a decimal zero.

Main statement: each of these renderings reads back as the value printed,
the signed value for `%d` and the unsigned reading for the others. The
reading side goes through `Glyphs`: how a base writes its digits, each glyph
reading back as its digit and being neither a blank, a separator, a sign nor
a base mark.
-/

namespace ClassroomC

namespace Printf

/-- The specifier of `flags` and `conversion` alone, with no width, precision
or length. -/
def Spec.bare (flags : List Char) (conversion : Char) : Spec :=
  ⟨flags, [], none, [], conversion⟩

theorem integerOptions_bare (flags patternFlags : List Char) (conversion : Char) :
    integerOptions ⟨flags, [], none, [], conversion⟩ patternFlags =
      .ok ⟨patternFlags.contains '-', patternFlags.contains '+', patternFlags.contains ' ',
        patternFlags.contains '0', 0, none⟩ := rfl

/-- With no flags, width or precision, a field is its sign, its base prefix
and its digits. -/
theorem layoutInteger_plain (negative : Bool) (basePrefix : String) (digits : List Char) :
    layoutInteger ⟨false, false, false, false, 0, none⟩ negative basePrefix digits =
      (if negative then "-" else "") ++ basePrefix ++ String.ofList digits := by
  simp [layoutInteger]

theorem renderInteger_decimal (value : Int) :
    renderInteger (.bare [] 'd') value =
      .ok ((if value < 0 then "-" else "") ++ String.ofList (Nat.toDigits 10 value.natAbs)) := by
  simp [renderInteger, Spec.bare, integerOptions_bare, layoutInteger_plain, digitsIn, bind,
    Except.bind, pure, Except.pure]

theorem renderInteger_unsigned (value : Int) :
    renderInteger (.bare [] 'u') value = .ok (String.ofList (Nat.toDigits 10 (Arith.toUnsigned value))) := by
  simp [renderInteger, Spec.bare, integerOptions_bare, layoutInteger_plain, digitsIn, bind,
    Except.bind, pure, Except.pure]

/-- `%#x` and `%#X` print the hexadecimal digits of the unsigned reading, in
the case of the conversion letter, behind `0x` or `0X` unless they are `0`. -/
theorem renderInteger_alternateHex (value : Int) (upper : Bool) :
    renderInteger (.bare ['#'] (if upper then 'X' else 'x')) value =
      .ok ((if Arith.toUnsigned value = 0 then "" else if upper then "0X" else "0x") ++
        String.ofList ((Nat.toDigits 16 (Arith.toUnsigned value)).map
          (if upper then Char.toUpper else id))) := by
  cases upper <;> by_cases zero : Arith.toUnsigned value = 0 <;>
    simp [renderInteger, Spec.bare, integerOptions_bare, layoutInteger_plain, digitsIn, zero, bind,
      Except.bind, pure, Except.pure]

/-- `%#o` prints the octal digits of the unsigned reading behind one leading
zero, and a zero alone as `0`. -/
theorem renderInteger_alternateOctal (value : Int) :
    renderInteger (.bare ['#'] 'o') value =
      .ok (String.ofList (if Arith.toUnsigned value = 0 then ['0']
        else '0' :: Nat.toDigits 8 (Arith.toUnsigned value))) := by
  by_cases zero : Arith.toUnsigned value = 0
  · simp [renderInteger, Spec.bare, padText, digitsIn, zero]
  · have head := Literal.toDigits_head 8 (by decide) _ (Nat.pos_of_ne_zero zero)
    simp [renderInteger, Spec.bare, padText, digitsIn, zero, head, Spec.hasFlag]

/-- Rendering `value` with `spec` prints a literal that reads back as
`expected`. -/
def PrintsLiteral (spec : Spec) (value expected : Int) : Prop :=
  ∃ text, renderInteger spec value = .ok text ∧ Literal.ofInt text = .ok expected

theorem printsLiteral_decimal (value : Int)
    (short : (Nat.toDigits 10 value.natAbs).length ≤ Literal.digitLimit) :
    PrintsLiteral (.bare [] 'd') value value :=
  ⟨_, renderInteger_decimal value, Literal.ofInt_decimal value short⟩

/-- A zero printed alone reads back as zero. -/
theorem ofInt_zero : Literal.ofInt (String.ofList ['0']) = .ok 0 := by
  have zero := Literal.ofInt_toString 0 (by decide)
  rw [Nat.toString_eq_ofList_toDigits, Nat.toDigits_zero] at zero
  exact zero

/-- The unsigned reading of a word has ten decimal digits at most, far
within the digits integer conversion reads. -/
theorem toUnsigned_numeral_short (value : Int) :
    (Nat.toDigits 10 (Arith.toUnsigned value)).length ≤ Literal.digitLimit := by
  have below : Arith.toUnsigned value < 10 ^ 10 := by
    unfold Arith.toUnsigned Arith.modulus
    omega
  have tenDigits := (Nat.length_toDigits_le_iff (by decide : 1 < 10) (by decide : 0 < 10)).mpr below
  unfold Literal.digitLimit
  omega

theorem printsLiteral_unsigned (value : Int) :
    PrintsLiteral (.bare [] 'u') value (Arith.toUnsigned value) := by
  refine ⟨_, renderInteger_unsigned value, ?_⟩
  rw [← Nat.toString_eq_ofList_toDigits]
  exact Literal.ofInt_toString _ (toUnsigned_numeral_short value)

theorem printsLiteral_alternateHex (value : Int) (upper : Bool) :
    PrintsLiteral (.bare ['#'] (if upper then 'X' else 'x')) value (Arith.toUnsigned value) := by
  refine ⟨_, renderInteger_alternateHex value upper, ?_⟩
  by_cases zero : Arith.toUnsigned value = 0
  · cases upper <;> simpa [zero] using ofInt_zero
  · cases upper
    · simpa [zero] using Literal.ofInt_hex Literal.glyphs_hex "0x" rfl (.inl rfl) _
    · simpa [zero] using Literal.ofInt_hex Literal.glyphs_hexUpper "0X" rfl (.inr rfl) _

theorem printsLiteral_alternateOctal (value : Int) :
    PrintsLiteral (.bare ['#'] 'o') value (Arith.toUnsigned value) := by
  refine ⟨_, renderInteger_alternateOctal value, ?_⟩
  by_cases zero : Arith.toUnsigned value = 0
  · simpa [zero] using ofInt_zero
  · simpa [zero] using Literal.ofInt_octal (Arith.toUnsigned value)

/-- The integer conversions print numerals that the literal reader reads
back: `%d` as the value, when its numeral has no more digits than integer
conversion reads, and `%u`, `%#x`, `%#X` and `%#o` as its unsigned reading. -/
theorem integer_renderings_read_back (value : Int)
    (short : (Nat.toDigits 10 value.natAbs).length ≤ Literal.digitLimit) :
    PrintsLiteral (.bare [] 'd') value value ∧
      PrintsLiteral (.bare [] 'u') value (Arith.toUnsigned value) ∧
      PrintsLiteral (.bare ['#'] 'x') value (Arith.toUnsigned value) ∧
      PrintsLiteral (.bare ['#'] 'X') value (Arith.toUnsigned value) ∧
      PrintsLiteral (.bare ['#'] 'o') value (Arith.toUnsigned value) :=
  ⟨printsLiteral_decimal value short, printsLiteral_unsigned value,
    printsLiteral_alternateHex value false, printsLiteral_alternateHex value true,
    printsLiteral_alternateOctal value⟩

/-- The renderings of `-7` read back. -/
theorem integer_renderings_read_back_of_minus_seven :
    (Nat.toDigits 10 (-7 : Int).natAbs).length ≤ Literal.digitLimit ∧
      PrintsLiteral (.bare [] 'd') (-7) (-7) ∧
      PrintsLiteral (.bare [] 'u') (-7) (Arith.toUnsigned (-7)) ∧
      PrintsLiteral (.bare ['#'] 'x') (-7) (Arith.toUnsigned (-7)) ∧
      PrintsLiteral (.bare ['#'] 'X') (-7) (Arith.toUnsigned (-7)) ∧
      PrintsLiteral (.bare ['#'] 'o') (-7) (Arith.toUnsigned (-7)) :=
  ⟨by decide, integer_renderings_read_back (-7) (by decide)⟩

end Printf

end ClassroomC
