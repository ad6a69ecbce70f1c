/-!
# Decimals rounded to binary64

A number written with a fraction or an exponent stands for a binary64
floating-point value: the one nearest to the decimal, where a tie goes to the
neighbour with the even significand. This module finds that value exactly, in
natural-number arithmetic. A finite value is a significand of at most 53 bits
times a power of two no finer than `2^-1074`; a decimal whose rounded
magnitude reaches `2^1024` is infinite.
-/

namespace ClassroomC

/-- A binary64 value: a finite one, `significand * 2^-scale` with a sign, or
an infinite one. -/
inductive Binary64 where
  | finite (negative : Bool) (significand : Nat) (scale : Int)
  | infinite (negative : Bool)
  deriving Repr, BEq, DecidableEq

namespace Binary64

/-- The bits of a significand. -/
def precision : Nat := 53

/-- The finest scale: below the least normal magnitude the values are the
multiples of `2^-1074`. -/
def finestScale : Int := 1074

-- Powers are written `Nat.pow` by name: which instance `^` finds depends on
-- what else is imported.

/-- The least magnitude that is infinite: `2^1024`. -/
def overflow : Nat := Nat.pow 2 1024

/-- `numerator / denominator` rounded to a whole number, a tie going to the
even one. -/
def roundHalfEven (numerator denominator : Nat) : Nat :=
  let quotient := numerator / denominator
  let twice := 2 * (numerator % denominator)
  if twice > denominator || (twice == denominator && quotient % 2 == 1) then quotient + 1
  else quotient

/-- The fraction `numerator * 2^scale / denominator`, written with naturals. -/
def scaled (numerator denominator : Nat) (scale : Int) : Nat × Nat :=
  if 0 ≤ scale then (numerator * Nat.pow 2 scale.toNat, denominator)
  else (numerator, denominator * Nat.pow 2 (-scale).toNat)

/-- The scale that gives `numerator / denominator` a significand of exactly
`precision` bits, or the finest scale if that is finer. The difference of
the two logarithms puts the scaled value between `2^51` and `2^53`; one more
bit when it falls below `2^52` puts it in place. -/
def scaleOf (numerator denominator : Nat) : Int :=
  let guess : Int :=
    ((precision - 1 : Nat) : Int) - ((Nat.log2 numerator : Int) - (Nat.log2 denominator : Int))
  let (top, bottom) := scaled numerator denominator guess
  let scale := if top < Nat.pow 2 (precision - 1) * bottom then guess + 1 else guess
  min scale finestScale

/-- The value nearest to `numerator / denominator`, with a sign. -/
def ofRatio (negative : Bool) (numerator denominator : Nat) : Binary64 :=
  if numerator = 0 then .finite negative 0 0
  else
    let scale := scaleOf numerator denominator
    let (top, bottom) := scaled numerator denominator scale
    let significand := roundHalfEven top bottom
    if scale < 0 && significand * Nat.pow 2 (-scale).toNat ≥ overflow then .infinite negative
    else .finite negative significand scale

/-- The value nearest to the decimal `mantissa / 10^exponent`. -/
def ofDecimal (mantissa : Int) (exponent : Nat) : Binary64 :=
  ofRatio (mantissa < 0) mantissa.natAbs (Nat.pow 10 exponent)

/-- The value as an integer, if it is finite and whole. -/
def toInt? : Binary64 → Option Int
  | .infinite _ => none
  | .finite negative significand scale =>
    let magnitude? : Option Nat :=
      if scale ≤ 0 then some (significand * Nat.pow 2 (-scale).toNat)
      else if significand % Nat.pow 2 scale.toNat = 0 then some (significand / Nat.pow 2 scale.toNat)
      else none
    magnitude?.map fun magnitude => if negative then -(magnitude : Int) else magnitude

example : (ofDecimal 15 1).toInt? = none := by decide
example : (ofDecimal 10 1).toInt? = some 1 := by decide
example : (ofDecimal 10000000000000000001 19).toInt? = some 1 := by decide

end Binary64

end ClassroomC
