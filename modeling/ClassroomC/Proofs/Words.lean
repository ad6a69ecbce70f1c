import Mathlib.Data.Int.ModEq
import Mathlib.Data.Rat.Floor
import ClassroomC.Eval
import ClassroomC.Proofs.Representation

/-!
# Words and C division

Wrapping sends an integer to the one word congruent to it modulo `2^32`.
So two integers wrap alike exactly when they are congruent, wrapping twice
is wrapping once, and the unsigned reading of a bit pattern does not see
what wrapping took away. These are the facts that let arithmetic be done
exactly and wrapped at the end.

Division truncates toward zero, and the remainder makes up the difference:
it is smaller than the divisor and takes the sign of the dividend. Of two
words the quotient is a word again, except for `-2^31 / -1`, whose quotient
`2^31` wraps back to `-2^31`; the remainder always is.
-/

namespace ClassroomC

namespace Arith

/-! ## Wrapping -/

/-- Wrapping gives the one word congruent to `value` modulo `2^32`. -/
theorem wrap_eq_iff {value word : Int} :
    wrap value = word ↔ IsWord word ∧ word ≡ value [ZMOD 2 ^ 32] := by
  rw [wrap, Int.bmod_eq_iff (by decide), Int.modEq_iff_dvd, dvd_sub_comm]
  simp only [IsWord, modulus]
  constructor
  · rintro ⟨lower, upper, divides⟩
    exact ⟨⟨by omega, by omega⟩, divides⟩
  · rintro ⟨⟨lower, upper⟩, divides⟩
    exact ⟨by omega, by omega, divides⟩

theorem wrap_modEq (value : Int) : wrap value ≡ value [ZMOD 2 ^ 32] :=
  (wrap_eq_iff.mp rfl).2

theorem wrap_of_isWord {value : Int} (word : IsWord value) : wrap value = value :=
  wrap_eq_iff.mpr ⟨word, Int.ModEq.refl value⟩

@[simp] theorem wrap_wrap (value : Int) : wrap (wrap value) = wrap value :=
  wrap_of_isWord (isWord_wrap value)

/-- Two integers wrap to the same word exactly when they are congruent
modulo `2^32`. -/
theorem wrap_eq_wrap_iff {value value' : Int} :
    wrap value = wrap value' ↔ value ≡ value' [ZMOD 2 ^ 32] := by
  constructor
  · intro same
    calc value ≡ wrap value [ZMOD 2 ^ 32] := (wrap_modEq value).symm
      _ = wrap value' := same
      _ ≡ value' [ZMOD 2 ^ 32] := wrap_modEq value'
  · intro congruent
    exact wrap_eq_iff.mpr ⟨isWord_wrap value', (wrap_modEq value').trans congruent.symm⟩

theorem toUnsigned_wrap (value : Int) : toUnsigned (wrap value) = toUnsigned value := by
  have same : wrap value % 2 ^ 32 = value % 2 ^ 32 := wrap_modEq value
  simp only [toUnsigned]
  rw [show ((modulus : Nat) : Int) = 2 ^ 32 from rfl, same]

/-! ## Truncating division -/

/-- The rational `q` truncated toward zero: rounded down when it is not
negative, up when it is. -/
def towardZero (q : ℚ) : Int :=
  if 0 ≤ q then ⌊q⌋ else ⌈q⌉

private theorem quot_eq_towardZero_of_pos (dividend : Int) {divisor : Nat} (positive : 0 < divisor) :
    quot dividend divisor = towardZero ((dividend : ℚ) / (divisor : Int)) := by
  unfold quot towardZero
  push_cast
  rcases le_or_gt 0 dividend with nonneg | neg
  · have rational : (0 : ℚ) ≤ (dividend : ℚ) / divisor := by positivity
    rw [if_pos rational, Int.tdiv_eq_ediv_of_nonneg nonneg, Rat.floor_intCast_div_natCast]
  · have rational : ¬ (0 : ℚ) ≤ (dividend : ℚ) / divisor := by
      have : (dividend : ℚ) < 0 := by exact_mod_cast neg
      exact not_le.mpr (div_neg_of_neg_of_pos this (by exact_mod_cast positive))
    -- rounding `-n / d` up is negating the rounded-down `n / d`
    rw [if_neg rational, Rat.ceil_intCast_div_natCast,
      ← Int.tdiv_eq_ediv_of_nonneg (by omega), Int.neg_tdiv, Int.neg_neg]

/-- The quotient is the exact quotient truncated toward zero. -/
theorem quot_eq_towardZero (dividend divisor : Int) (nonzero : divisor ≠ 0) :
    quot dividend divisor = towardZero ((dividend : ℚ) / divisor) := by
  rcases lt_or_gt_of_ne nonzero with neg | pos
  · -- a negative divisor: divide the negated dividend by the negated divisor
    obtain ⟨magnitude, flipped⟩ : ∃ magnitude : Nat, -divisor = magnitude :=
      ⟨(-divisor).toNat, by omega⟩
    have same : quot dividend divisor = quot (-dividend) (-divisor) := by
      simp only [quot, Int.neg_tdiv_neg]
    have rational : (dividend : ℚ) / divisor = ((-dividend : Int) : ℚ) / (-divisor : Int) := by
      push_cast
      rw [neg_div_neg_eq]
    rw [same, rational, flipped]
    exact quot_eq_towardZero_of_pos (-dividend) (by omega)
  · obtain ⟨magnitude, rfl⟩ : ∃ magnitude : Nat, divisor = magnitude := ⟨divisor.toNat, by omega⟩
    exact quot_eq_towardZero_of_pos dividend (by omega)

theorem abs_rem_lt (dividend divisor : Int) (nonzero : divisor ≠ 0) :
    |rem dividend divisor| < |divisor| := by
  have smaller : (rem dividend divisor).natAbs < divisor.natAbs := by
    rw [rem, Int.natAbs_tmod]
    exact Nat.mod_lt _ (by omega)
  rw [Int.abs_eq_natAbs, Int.abs_eq_natAbs]
  exact_mod_cast smaller

/-- The remainder is zero or has the sign of the dividend. -/
theorem rem_zero_or_sign (dividend divisor : Int) :
    rem dividend divisor = 0 ∨ (rem dividend divisor).sign = dividend.sign := by
  have signed := Int.sign_tmod dividend divisor
  rw [← rem] at signed
  split at signed
  · exact .inl (Int.sign_eq_zero_iff_zero.mp signed)
  · exact .inr signed

theorem divide_error_iff {dividend divisor : Int} :
    (∃ fault, divide dividend divisor = .error fault ∧ fault.kind = "DivisionByZero") ↔
      divisor = 0 := by
  unfold divide
  by_cases zero : divisor = 0
  · simp [zero, Fault.kind]
  · simp [zero]

theorem remainder_error_iff {dividend divisor : Int} :
    (∃ fault, remainder dividend divisor = .error fault ∧ fault.kind = "DivisionByZero") ↔
      divisor = 0 := by
  unfold remainder
  by_cases zero : divisor = 0
  · simp [zero, Fault.kind]
  · simp [zero]

/-! ## Division of words -/

variable {left right : Int}

/-- The quotient of a word by a nonzero divisor is a word, except for
`-2^31 / -1`. -/
theorem isWord_quot_iff (leftWord : IsWord left) (nonzero : right ≠ 0) :
    IsWord (quot left right) ↔ ¬(left = -2 ^ 31 ∧ right = -1) := by
  unfold IsWord at *
  have magnitude : (quot left right).natAbs = left.natAbs / right.natAbs :=
    Int.natAbs_tdiv left right
  constructor
  · rintro ⟨_, below⟩ ⟨rfl, rfl⟩
    -- `-2^31 / -1` is `2^31`, one past the largest word
    have edge : quot (-2 ^ 31) (-1) = 2 ^ 31 := by decide
    omega
  · intro notEdge
    by_cases unit : right.natAbs = 1
    · -- dividing by `1` or `-1` keeps or negates the dividend
      rcases (show right = 1 ∨ right = -1 by omega) with rfl | rfl
      · rw [quot, Int.tdiv_one]
        omega
      · rw [quot, Int.tdiv_neg, Int.tdiv_one]
        omega
    · -- any other divisor at least halves the dividend's magnitude
      have halved : left.natAbs / right.natAbs ≤ left.natAbs / 2 :=
        Nat.div_le_div_left (by omega) (by decide)
      omega

/-- The remainder by a nonzero word is a word. -/
theorem isWord_rem (rightWord : IsWord right) (nonzero : right ≠ 0) :
    IsWord (rem left right) := by
  unfold IsWord at *
  have magnitude : (rem left right).natAbs = left.natAbs % right.natAbs :=
    Int.natAbs_tmod left right
  have smaller := Nat.mod_lt left.natAbs (show 0 < right.natAbs by omega)
  omega

end Arith

namespace Eval

variable {left right : Int} {line : Option Nat}

theorem applyBinary_div (nonzero : right ≠ 0) :
    applyBinary .div left right line = .ok (Arith.wrap (Arith.quot left right)) := by
  simp [applyBinary, nonzero]

theorem applyBinary_mod (nonzero : right ≠ 0) :
    applyBinary .mod left right line = .ok (Arith.wrap (Arith.rem left right)) := by
  simp [applyBinary, nonzero]

end Eval

/-- The laws of C division. The quotient is the exact quotient truncated
toward zero, and the remainder makes up the difference: it is smaller than
the divisor and is zero or has the sign of the dividend. Both operations
refuse exactly a zero divisor. Of two words, the evaluator's quotient is
the exact one except at `-2^31 / -1`, where it wraps to `-2^31`, and its
remainder is always the exact one, a word. -/
theorem truncated_division_laws :
    (∀ dividend divisor : Int, divisor ≠ 0 →
      Arith.quot dividend divisor * divisor + Arith.rem dividend divisor = dividend ∧
      |Arith.rem dividend divisor| < |divisor| ∧
      (Arith.rem dividend divisor = 0 ∨ (Arith.rem dividend divisor).sign = dividend.sign) ∧
      Arith.quot dividend divisor = Arith.towardZero ((dividend : ℚ) / divisor)) ∧
    (∀ dividend divisor : Int,
      ((∃ fault, Arith.divide dividend divisor = .error fault ∧
          fault.kind = "DivisionByZero") ↔ divisor = 0) ∧
      ((∃ fault, Arith.remainder dividend divisor = .error fault ∧
          fault.kind = "DivisionByZero") ↔ divisor = 0)) ∧
    (∀ left right : Int, Arith.IsWord left → Arith.IsWord right → right ≠ 0 → ∀ line,
      (Eval.applyBinary .div left right line = .ok (Arith.quot left right) ↔
        ¬(left = -2 ^ 31 ∧ right = -1)) ∧
      Eval.applyBinary .mod left right line = .ok (Arith.rem left right) ∧
      Arith.IsWord (Arith.rem left right)) ∧
    (∀ line, Eval.applyBinary .div (-2 ^ 31) (-1) line = .ok (-2 ^ 31)) := by
  refine ⟨fun dividend divisor nonzero => ⟨Arith.quot_mul_add_rem dividend divisor,
      Arith.abs_rem_lt dividend divisor nonzero, Arith.rem_zero_or_sign dividend divisor,
      Arith.quot_eq_towardZero dividend divisor nonzero⟩,
    fun _ _ => ⟨Arith.divide_error_iff, Arith.remainder_error_iff⟩, ?_, ?_⟩
  · intro left right leftWord rightWord nonzero line
    have remWord : Arith.IsWord (Arith.rem left right) := Arith.isWord_rem rightWord nonzero
    refine ⟨?_, ?_, remWord⟩
    · -- the evaluator keeps the quotient exactly when it is a word
      rw [Eval.applyBinary_div nonzero, Except.ok.injEq, Arith.wrap_eq_iff,
        ← Arith.isWord_quot_iff leftWord nonzero]
      exact and_iff_left (Int.ModEq.refl _)
    · rw [Eval.applyBinary_mod nonzero, Arith.wrap_of_isWord remWord]
  · intro line
    rw [Eval.applyBinary_div (by decide)]
    decide

theorem truncated_division_of_minus_seven :
    ((2 : Int) ≠ 0 ∧
      Arith.quot (-7) 2 * 2 + Arith.rem (-7) 2 = -7 ∧ |Arith.rem (-7) 2| < |(2 : Int)| ∧
      (Arith.rem (-7) 2 = 0 ∨ (Arith.rem (-7) 2).sign = (-7 : Int).sign) ∧
      Arith.quot (-7) 2 = Arith.towardZero (((-7 : Int) : ℚ) / (2 : Int))) ∧
    (Arith.IsWord (-2 ^ 31) ∧ Arith.IsWord 2 ∧ (2 : Int) ≠ 0 ∧
      ((Eval.applyBinary .div (-2 ^ 31) 2 none = .ok (Arith.quot (-2 ^ 31) 2) ↔
        ¬((-2 ^ 31 : Int) = -2 ^ 31 ∧ (2 : Int) = -1)) ∧
      Eval.applyBinary .mod (-2 ^ 31) 2 none = .ok (Arith.rem (-2 ^ 31) 2) ∧
      Arith.IsWord (Arith.rem (-2 ^ 31) 2))) :=
  ⟨⟨by decide, truncated_division_laws.1 (-7) 2 (by decide)⟩,
    ⟨⟨by decide, by decide⟩, ⟨by decide, by decide⟩, by decide,
      truncated_division_laws.2.2.1 (-2 ^ 31) 2 ⟨by decide, by decide⟩ ⟨by decide, by decide⟩
        (by decide) none⟩⟩

end ClassroomC
