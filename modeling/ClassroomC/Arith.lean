import ClassroomC.Error
/-!
# Arithmetic of the C `int`

Values of the language are 32-bit two's-complement words, held as integers in
`[-2^31, 2^31)`. Arithmetic is carried out exactly and the result is then
wrapped, which is the same as wrapping after every step. Division truncates
toward zero and the remainder takes the sign of the dividend, so that
`quot a b * b + rem a b = a`.
-/

namespace ClassroomC.Arith

/-- The number of distinct words, `2^32`. -/
def modulus : Nat := 4294967296

/-- The smallest word, `-2^31`. -/
def minWord : Int := -2147483648

/-- The largest word, `2^31 - 1`. -/
def maxWord : Int := 2147483647

/-- The word congruent to `value` modulo `2^32`: the balanced residue. -/
def wrap (value : Int) : Int :=
  value.bmod modulus

/-- The unsigned reading of the bit pattern of `value`, in `[0, 2^32)`. -/
def toUnsigned (value : Int) : Nat :=
  (value % (modulus : Int)).toNat

/-- Division truncating toward zero: `quot (-7) 2 = -3`. Zero divisors are
refused by the callers before this is reached. -/
def quot (dividend divisor : Int) : Int :=
  dividend.tdiv divisor

/-- The remainder that goes with `quot`: `rem (-7) 2 = -1`. -/
def rem (dividend divisor : Int) : Int :=
  dividend.tmod divisor

/-- Division that refuses a zero divisor. -/
def divide (dividend divisor : Int) : Except Fault Int :=
  if divisor = 0 then .error .divisionByZero else .ok (quot dividend divisor)

/-- The remainder that refuses a zero divisor. -/
def remainder (dividend divisor : Int) : Except Fault Int :=
  if divisor = 0 then .error .moduloByZero else .ok (rem dividend divisor)

example : wrap 2147483648 = -2147483648 ∧ wrap (-1) = -1 ∧ wrap 4294967295 = -1 := by decide
example : toUnsigned (-1) = 4294967295 ∧ toUnsigned (-2147483649) = 2147483647 := by decide
example : quot (-7) 2 = -3 ∧ rem (-7) 2 = -1 ∧ quot 7 (-2) = -3 ∧ rem 7 (-2) = 1 := by decide

theorem wrap_mem (value : Int) : minWord ≤ wrap value ∧ wrap value ≤ maxWord := by
  have lower := Int.le_bmod (x := value) (m := modulus) (by decide)
  have upper := Int.bmod_lt (x := value) (m := modulus) (by decide)
  simp only [wrap, minWord, maxWord, modulus] at *
  omega

theorem quot_mul_add_rem (dividend divisor : Int) :
    quot dividend divisor * divisor + rem dividend divisor = dividend := by
  simp only [quot, rem]
  rw [Int.add_comm]
  exact Int.tmod_add_tdiv_mul dividend divisor

end ClassroomC.Arith
