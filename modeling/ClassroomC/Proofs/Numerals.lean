import Mathlib.Data.List.TakeWhile
import Mathlib.Tactic.Ring
import ClassroomC.Literal
import ClassroomC.Proofs.NormalForm

/-!
# Numerals read back as literals

The literal reader reads back the numerals that are printed: the decimal
numeral of a natural number that has no more digits than integer conversion
reads, with a minus before it or not, a hexadecimal numeral behind `0x` or
`0X`, and an octal numeral behind one leading zero. Hexadecimal and octal
numerals have no limit on their digits.

The reading goes through `Glyphs`: how a base writes its digits, each glyph
reading back as its digit and being neither a blank, a separator, a sign nor
a base mark.
-/

namespace ClassroomC

namespace Literal

/-! ## Decimal numerals of ASCII digits -/

/-- An ASCII digit is no blank. -/
theorem isWhiteSpace_of_isDigit {c : Char} (digit : c.isDigit = true) :
    Unicode.isWhiteSpace c = false := by
  simp only [Char.isDigit, Bool.and_eq_true, decide_eq_true_eq] at digit
  have lower : 48 ≤ c.toNat := digit.1
  have upper : c.toNat ≤ 57 := digit.2
  simp only [Unicode.isWhiteSpace, Unicode.isSpace, Bool.and_eq_false_iff]
  left
  simp only [Bool.or_eq_false_iff, Bool.and_eq_false_iff, decide_eq_false_iff_not,
    beq_eq_false_iff_ne]
  omega

/-- An ASCII digit has its own value in base ten. -/
theorem digitValue?_of_isDigit {c : Char} (digit : c.isDigit = true) :
    digitValue? 10 c = some (c.toNat - '0'.toNat) := by
  have ascii : ('0' ≤ c && c ≤ '9') = true := digit
  simp only [Char.isDigit, Bool.and_eq_true, decide_eq_true_eq] at digit
  have upper : c.toNat ≤ 57 := digit.2
  have small : c.toNat - 48 < 10 := by omega
  simp [digitValue?, Unicode.decimalDigitValue?, ascii, small]

/-- Reading ASCII digits is the decimal value they spell. -/
theorem readDigits_of_isDigit (acc : Nat) (digits : List Char)
    (allDigits : ∀ c ∈ digits, c.isDigit = true) :
    readDigits 10 acc digits = some (Nat.ofDigitChars 10 digits acc) := by
  induction digits generalizing acc with
  | nil => simp [readDigits]
  | cons c rest ih =>
      have digit := allDigits c (by simp)
      have notSeparator : c ≠ '_' := by
        intro same
        subst same
        simp at digit
      rw [readDigits.eq_3 _ _ _ _ (fun more _ => by simp_all), digitValue?_of_isDigit digit]
      dsimp only
      rw [ih _ (fun c' mem => allDigits c' (List.mem_cons_of_mem c mem)), Nat.ofDigitChars_cons,
        Nat.mul_comm]

/-- A numeral has no leading zero, unless it is `0` itself. -/
theorem toDigits_head (base : Nat) (large : 1 < base) (n : Nat) (positive : 0 < n) :
    (Nat.toDigits base n).head? ≠ some '0' := by
  induction n using Nat.strongRecOn with
  | ind n ih =>
      rw [Nat.toDigits_eq_if large]
      split
      · simp only [List.head?_cons, ne_eq, Option.some.injEq, Nat.digitChar_eq_zero]
        omega
      · next more =>
          -- the leading digit is that of `n / base`
          have shorter : n / base < n := Nat.div_lt_self positive large
          have leading := ih (n / base) shorter (Nat.div_pos (by omega) (by omega))
          obtain ⟨first, others, split⟩ :=
            List.exists_cons_of_ne_nil (Nat.toDigits_ne_nil (n := n / base) (b := base))
          rw [split] at leading ⊢
          simpa using leading

/-- A numeral read from its first digit on: base ten has no prefix. -/
theorem readNumeral_of_isDigit (digit : Char) (more : List Char)
    (allDigits : ∀ c ∈ digit :: more, c.isDigit = true) :
    readNumeral 10 (digit :: more) = some (Nat.ofDigitChars 10 (digit :: more) 0) := by
  have first := allDigits digit (List.mem_cons_self ..)
  have rest : ∀ c ∈ more, c.isDigit = true := fun c mem => allDigits c (List.mem_cons_of_mem _ mem)
  unfold readNumeral
  split
  all_goals
    simp only [Nat.reduceBEq, Bool.false_and, Bool.or_self, Bool.false_eq_true, if_false,
      Option.getD_none, digitValue?_of_isDigit first]
    rw [readDigits_of_isDigit _ _ rest, Nat.ofDigitChars_cons, Nat.mul_zero, Nat.zero_add]

/-- Integer conversion of a text of ASCII digits: nothing to trim, no sign. -/
theorem readInt_of_isDigit {text : String} {digit : Char} {more : List Char}
    (spelled : text.toList = digit :: more) (allDigits : ∀ c ∈ digit :: more, c.isDigit = true) :
    readInt 10 text = some (Nat.ofDigitChars 10 (digit :: more) 0) := by
  have first := allDigits digit (List.mem_cons_self ..)
  have front : (digit :: more).dropWhile Unicode.isWhiteSpace = digit :: more := by
    rw [List.dropWhile_cons_of_neg (by simp [isWhiteSpace_of_isDigit first])]
  have back : (digit :: more).reverse.dropWhile Unicode.isWhiteSpace = (digit :: more).reverse := by
    obtain ⟨last, others, reversed⟩ :=
      List.exists_cons_of_ne_nil (List.reverse_ne_nil_iff.mpr (List.cons_ne_nil digit more))
    have lastDigit : last.isDigit = true :=
      allDigits last (List.mem_reverse.mp (reversed ▸ List.mem_cons_self ..))
    rw [reversed, List.dropWhile_cons_of_neg (by simp [isWhiteSpace_of_isDigit lastDigit])]
  unfold readInt
  rw [spelled, front, back, List.reverse_reverse]
  dsimp only
  -- a digit is no sign
  split
  · next rest same => simp_all
  · next rest same => simp_all
  · rw [readNumeral_of_isDigit digit more allDigits]
    rfl

/-- An ASCII digit is a decimal digit. -/
theorem isDecimalDigit_of_isDigit {c : Char} (digit : c.isDigit = true) :
    Unicode.isDecimalDigit c = true := by
  have ascii : ('0' ≤ c && c ≤ '9') = true := digit
  simp [Unicode.isDecimalDigit, ascii]

/-- The decimal digits of a text that is a sign and ASCII digits are those
digits. -/
theorem decimalDigits_of_spelled (sign : List Char) {text : String} {digits : List Char}
    (spelled : text.toList = sign ++ digits) (signs : ∀ c ∈ sign, Unicode.isDecimalDigit c = false)
    (allDigits : ∀ c ∈ digits, c.isDigit = true) : decimalDigits text = digits.length := by
  unfold decimalDigits
  rw [spelled, List.filter_append, List.filter_eq_nil_iff.mpr (fun c mem => by simp [signs c mem]),
    List.filter_eq_self.mpr (fun c mem => isDecimalDigit_of_isDigit (allDigits c mem)),
    List.nil_append]

theorem toDigits_isDigit (n : Nat) : ∀ c ∈ Nat.toDigits 10 n, c.isDigit = true :=
  fun _ mem => Nat.isDigit_of_mem_toDigits (by decide) (by decide) mem

/-- Integer conversion reads a natural number's decimal numeral back, when
it has no more digits than conversion reads. -/
theorem ofInt_toString (n : Nat) (short : (Nat.toDigits 10 n).length ≤ digitLimit) :
    ofInt (toString n) = .ok n := by
  have numeral : (toString n).toList = Nat.toDigits 10 n := by
    rw [Nat.toString_eq_ofList_toDigits, String.toList_ofList]
  have digits := toDigits_isDigit n
  have counted : decimalDigits (toString n) = (Nat.toDigits 10 n).length :=
    decimalDigits_of_spelled [] numeral (by simp) digits
  unfold ofInt
  rw [numeral]
  dsimp only
  split
  · next x tail leading =>
      -- a numeral starting with `0` is `0` itself, which has no second digit
      exfalso
      by_cases zero : n = 0
      · subst zero
        simp at leading
      · have head := toDigits_head 10 (by decide) n (by omega)
        rw [leading] at head
        exact head rfl
  · rw [if_neg (by omega)]
    cases digitsEq : Nat.toDigits 10 n with
    | nil => exact absurd digitsEq Nat.toDigits_ne_nil
    | cons digit more =>
        rw [readInt_of_isDigit (numeral.trans digitsEq) (digitsEq ▸ digits), ← digitsEq,
          Nat.ofDigitChars_ten_toDigits]
        rfl

/-! ## Numerals in every base -/


/-- How a base writes its digits: the digit `d` is written `glyph d.digitChar`,
which reads back as `d` and is neither a blank, a separator, a sign nor a
base mark. -/
structure Glyphs (base : Nat) (glyph : Char → Char) : Prop where
  large : 1 < base
  reads : ∀ d < base, digitValue? base (glyph d.digitChar) = some d
  solid : ∀ d < base, Unicode.isWhiteSpace (glyph d.digitChar) = false
  plain : ∀ d < base, glyph d.digitChar ∉ ['_', '-', '+', 'x', 'X', 'o', 'O']

theorem glyphs_decimal : Glyphs 10 id := ⟨by decide, by decide +kernel, by decide, by decide⟩

theorem glyphs_octal : Glyphs 8 id := ⟨by decide, by decide +kernel, by decide, by decide⟩

theorem glyphs_hex : Glyphs 16 id := ⟨by decide, by decide +kernel, by decide, by decide⟩

theorem glyphs_hexUpper : Glyphs 16 Char.toUpper := ⟨by decide, by decide +kernel, by decide, by decide⟩

/-- Every character of a numeral is the character of a digit of its base. -/
theorem digit_of_mem_toDigits {base n : Nat} {c : Char} (large : 1 < base)
    (mem : c ∈ Nat.toDigits base n) : ∃ d < base, c = d.digitChar := by
  induction n using Nat.base_induction base large with
  | single m small =>
      rw [Nat.toDigits_of_lt_base small, List.mem_singleton] at mem
      exact ⟨m, small, mem⟩
  | digit m k small positive ih =>
      rw [← Nat.toDigits_append_toDigits large positive small, Nat.toDigits_of_lt_base small,
        List.mem_append, List.mem_singleton] at mem
      rcases mem with high | low
      · exact ih high
      · exact ⟨k, small, low⟩

section Glyphs

variable {base : Nat} {glyph : Char → Char}

theorem Glyphs.of_mem (glyphs : Glyphs base glyph) {n : Nat} {c : Char}
    (mem : c ∈ (Nat.toDigits base n).map glyph) : ∃ d < base, c = glyph d.digitChar := by
  obtain ⟨digit, isDigit, rfl⟩ := List.mem_map.mp mem
  obtain ⟨d, small, rfl⟩ := digit_of_mem_toDigits glyphs.large isDigit
  exact ⟨d, small, rfl⟩

theorem Glyphs.readDigits_cons (glyphs : Glyphs base glyph) {d : Nat} (small : d < base)
    (acc : Nat) (rest : List Char) :
    readDigits base acc (glyph d.digitChar :: rest) = readDigits base (acc * base + d) rest := by
  have notSeparator : glyph d.digitChar ≠ '_' := fun same => glyphs.plain d small (by simp [same])
  rw [readDigits.eq_3 _ _ _ _ (fun _ _ same _ => notSeparator same), glyphs.reads d small]

/-- Reading the glyphs of the numeral of `n` shifts what was read before by
their number of places and adds `n`. -/
theorem Glyphs.readDigits_append (glyphs : Glyphs base glyph) (n acc : Nat) (rest : List Char) :
    readDigits base acc ((Nat.toDigits base n).map glyph ++ rest) =
      readDigits base (acc * base ^ (Nat.toDigits base n).length + n) rest := by
  induction n using Nat.base_induction base glyphs.large generalizing acc rest with
  | single m small =>
      rw [Nat.toDigits_of_lt_base small, List.map_singleton, List.singleton_append,
        glyphs.readDigits_cons small, List.length_singleton, Nat.pow_one]
  | digit m k small positive ih =>
      rw [← Nat.toDigits_append_toDigits glyphs.large positive small, Nat.toDigits_of_lt_base small,
        List.map_append, List.map_singleton, List.append_assoc, List.singleton_append, ih,
        glyphs.readDigits_cons small, List.length_append, List.length_singleton, Nat.pow_succ]
      congr 1
      ring

theorem Glyphs.readDigits_toDigits (glyphs : Glyphs base glyph) (n : Nat) :
    readDigits base 0 ((Nat.toDigits base n).map glyph) = some n := by
  simpa [readDigits] using glyphs.readDigits_append n 0 []

/-- A numeral that starts with no base mark is read digit by digit. -/
theorem readNumeral_of_unmarked {c : Char} {rest : List Char} (notSeparator : c ≠ '_')
    (unmarked : ∀ p ∈ rest.head?, p ∉ ['x', 'X', 'o', 'O']) :
    readNumeral base (c :: rest) = readDigits base 0 (c :: rest) := by
  rw [readDigits.eq_3 _ _ _ _ (fun _ _ same _ => notSeparator same)]
  by_cases leadingZero : ∃ p more, c :: rest = '0' :: p :: more
  · -- a leading zero is followed by a digit, not by a base mark
    obtain ⟨p, more, same⟩ := leadingZero
    cases same
    have notMark := unmarked p rfl
    simp only [List.mem_cons, List.not_mem_nil, or_false, not_or] at notMark
    by_cases separated : ∃ after, more = '_' :: after
    · obtain ⟨after, rfl⟩ := separated
      rw [readNumeral.eq_1]
      simp [notMark]
    · rw [readNumeral.eq_2 _ _ _ fun after same => separated ⟨after, same⟩]
      simp [notMark]
  · rw [readNumeral.eq_3 _ _ fun p more same => leadingZero ⟨p, more, same⟩]
    simp

/-- A hexadecimal numeral behind its base mark is read digit by digit. -/
theorem readNumeral_hex {mark c : Char} {rest : List Char} (isMark : mark = 'x' ∨ mark = 'X')
    (notSeparator : c ≠ '_') :
    readNumeral 16 ('0' :: mark :: c :: rest) = readDigits 16 0 (c :: rest) := by
  rw [readNumeral.eq_2 _ _ _ fun after same => notSeparator (List.cons.inj same).1,
    readDigits.eq_3 _ _ _ _ (fun _ _ same _ => notSeparator same)]
  rcases isMark with rfl | rfl <;> simp

theorem Glyphs.plain_of_mem (glyphs : Glyphs base glyph) {n : Nat} {c : Char}
    (mem : c ∈ (Nat.toDigits base n).map glyph) : c ∉ ['_', '-', '+', 'x', 'X', 'o', 'O'] := by
  obtain ⟨d, small, rfl⟩ := glyphs.of_mem mem
  exact glyphs.plain d small

/-- The glyphs of a numeral, first and rest. -/
theorem exists_cons_map_toDigits (base : Nat) (glyph : Char → Char) (n : Nat) :
    ∃ first others, (Nat.toDigits base n).map glyph = first :: others := by
  cases digits : Nat.toDigits base n with
  | nil => exact absurd digits Nat.toDigits_ne_nil
  | cons d more => exact ⟨glyph d, more.map glyph, rfl⟩

theorem Glyphs.readNumeral_toDigits (glyphs : Glyphs base glyph) (n : Nat) :
    readNumeral base ((Nat.toDigits base n).map glyph) = some n := by
  obtain ⟨first, others, digits⟩ := exists_cons_map_toDigits base glyph n
  have notSeparator : first ≠ '_' := fun same =>
    glyphs.plain_of_mem (digits ▸ List.mem_cons_self : first ∈ _) (by simp [same])
  have unmarked : ∀ p ∈ others.head?, p ∉ ['x', 'X', 'o', 'O'] := fun p next listed =>
    glyphs.plain_of_mem (digits ▸ List.mem_cons_of_mem _ (List.mem_of_mem_head? next) : p ∈ _)
      (by simp_all)
  rw [digits, readNumeral_of_unmarked notSeparator unmarked, ← digits, glyphs.readDigits_toDigits]

end Glyphs

/-! ## Integer conversion of numerals -/

/-- Integer conversion of a numeral with nothing to trim and no sign. -/
theorem readInt_unsigned (base : Nat) {text : String} {c : Char} {rest : List Char}
    (spelled : text.toList = c :: rest) (unsigned : c ≠ '-' ∧ c ≠ '+')
    (headSolid : Unicode.isWhiteSpace c = false)
    (lastSolid : ∀ l ∈ (c :: rest).getLast?, Unicode.isWhiteSpace l = false) :
    readInt base text = (readNumeral base (c :: rest)).map Int.ofNat := by
  unfold readInt
  rw [spelled, Verdict.trim_eq_self (by simpa using headSolid) lastSolid]
  dsimp only
  split
  · next more same => exact absurd (List.cons.inj same).1 unsigned.1
  · next more same => exact absurd (List.cons.inj same).1 unsigned.2
  · cases readNumeral base (c :: rest) <;> rfl

/-- Integer conversion of a minus and a numeral, with nothing to trim. -/
theorem readInt_negative (base : Nat) {text : String} {rest : List Char}
    (spelled : text.toList = '-' :: rest)
    (lastSolid : ∀ l ∈ ('-' :: rest).getLast?, Unicode.isWhiteSpace l = false) :
    readInt base text = (readNumeral base rest).map fun value => -(value : Int) := by
  unfold readInt
  rw [spelled, Verdict.trim_eq_self (by simp [Unicode.isWhiteSpace, Unicode.isSpace]) lastSolid]
  simp

/-- A numeral ends in a glyph, which is no blank. -/
theorem Glyphs.lastSolid {base : Nat} {glyph : Char → Char} (glyphs : Glyphs base glyph)
    (front : List Char) (n : Nat) :
    ∀ l ∈ (front ++ (Nat.toDigits base n).map glyph).getLast?, Unicode.isWhiteSpace l = false := by
  intro l final
  obtain ⟨first, others, digits⟩ := exists_cons_map_toDigits base glyph n
  rw [digits, List.getLast?_append_cons] at final
  obtain ⟨d, small, rfl⟩ := glyphs.of_mem (digits ▸ List.mem_of_getLast? final : l ∈ _)
  exact glyphs.solid d small

/-- A signed decimal numeral reads back as its value, when it has no more
digits than conversion reads. -/
theorem ofInt_decimal (value : Int) (short : (Nat.toDigits 10 value.natAbs).length ≤ digitLimit) :
    ofInt ((if value < 0 then "-" else "") ++ String.ofList (Nat.toDigits 10 value.natAbs)) =
      .ok value := by
  by_cases negative : value < 0
  · have spelled : ((if value < 0 then "-" else "") ++
        String.ofList (Nat.toDigits 10 value.natAbs)).toList = '-' :: Nat.toDigits 10 value.natAbs := by
      simp [negative]
    have numeral := glyphs_decimal.readNumeral_toDigits value.natAbs
    rw [List.map_id] at numeral
    have lastSolid := glyphs_decimal.lastSolid ['-'] value.natAbs
    rw [List.map_id] at lastSolid
    have read := readInt_negative 10 spelled lastSolid
    unfold ofInt
    rw [spelled]
    dsimp only
    split
    · next x tail same => exact absurd (List.cons.inj same).1 (by decide)
    · have counted : decimalDigits ((if value < 0 then "-" else "") ++
          String.ofList (Nat.toDigits 10 value.natAbs)) = (Nat.toDigits 10 value.natAbs).length :=
        decimalDigits_of_spelled ['-'] spelled
          (fun c sign => by rw [List.mem_singleton.mp sign]; rfl) (toDigits_isDigit value.natAbs)
      rw [if_neg (by omega)]
      have magnitude : -((value.natAbs : Nat) : Int) = value := by omega
      rw [read, numeral]
      show Except.ok (-((value.natAbs : Nat) : Int)) = _
      rw [magnitude]
  · simp only [negative, if_false, String.empty_append, ← Nat.toString_eq_ofList_toDigits]
    rw [ofInt_toString _ short]
    congr 1
    omega

/-- A hexadecimal numeral behind `0x` or `0X` reads back as its value. -/
theorem ofInt_hex {glyph : Char → Char} (glyphs : Glyphs 16 glyph) (basePrefix : String) {mark : Char}
    (spelledPrefix : basePrefix.toList = ['0', mark]) (isMark : mark = 'x' ∨ mark = 'X') (n : Nat) :
    ofInt (basePrefix ++ String.ofList ((Nat.toDigits 16 n).map glyph)) = .ok n := by
  obtain ⟨first, others, digits⟩ := exists_cons_map_toDigits 16 glyph n
  have notSeparator : first ≠ '_' := fun same =>
    glyphs.plain_of_mem (digits ▸ List.mem_cons_self : first ∈ _) (by simp [same])
  have spelled : (basePrefix ++ String.ofList ((Nat.toDigits 16 n).map glyph)).toList =
      '0' :: mark :: (Nat.toDigits 16 n).map glyph := by
    simp [spelledPrefix]
  have read := readInt_unsigned 16 spelled (by decide) (by decide) (glyphs.lastSolid ['0', mark] n)
  rw [digits, readNumeral_hex isMark notSeparator, ← digits, glyphs.readDigits_toDigits] at read
  unfold ofInt
  rw [spelled]
  dsimp only
  rw [read]
  rcases isMark with rfl | rfl <;> simp

/-- An octal numeral behind one leading zero reads back as its value. -/
theorem ofInt_octal (n : Nat) : ofInt (String.ofList ('0' :: Nat.toDigits 8 n)) = .ok n := by
  obtain ⟨first, others, digits⟩ := exists_cons_map_toDigits 8 id n
  rw [List.map_id] at digits
  have firstPlain := glyphs_octal.plain_of_mem (n := n)
    (by rw [List.map_id, digits]; exact List.mem_cons_self : first ∈ _)
  have lastSolid := glyphs_octal.lastSolid ['0'] n
  rw [List.map_id] at lastSolid
  have read := readInt_unsigned 8
    (String.toList_ofList (l := '0' :: Nat.toDigits 8 n)) (by decide) (by decide) lastSolid
  -- the leading zero is a digit of its own: no base mark follows it
  have leadingZero : readDigits 8 0 ('0' :: Nat.toDigits 8 n) = readDigits 8 0 (Nat.toDigits 8 n) :=
    glyphs_octal.readDigits_cons (d := 0) (by decide) 0 _
  have numeral := glyphs_octal.readDigits_toDigits n
  rw [List.map_id] at numeral
  rw [readNumeral_of_unmarked (by decide) (fun p next => by simp_all), leadingZero, numeral] at read
  have notMark : (first == 'x' || first == 'X') = false := by simp_all
  unfold ofInt
  rw [String.toList_ofList]
  dsimp only
  rw [read, digits]
  simp [notMark]

/-! ## Decimal digits of any script -/

end Literal

end ClassroomC
