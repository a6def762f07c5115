/-!
# Binary floating point

The 64-bit binary format with 52 fraction bits, by its bits. A finite number is a significand
times a power of two, so all arithmetic here is exact arithmetic on naturals, rounded once.

Rounding goes to the nearest number, and a tie to the even significand.

Main statement: a rounded quotient is at most half a unit away.
-/

namespace TypedCalls

/-- A number of the 64-bit binary floating point format. -/
structure Binary64 where
  bits : UInt64
  deriving DecidableEq, Repr, Inhabited

namespace Binary64

/-- How many values the fraction field has: 2^52. -/
def fractionSize : Nat := 0x10000000000000

/-- How many values the exponent field has: 2^11. -/
def exponentSize : Nat := 0x800

/-- The sign bit. -/
def negative (x : Binary64) : Bool :=
  exponentSize * fractionSize ≤ x.bits.toNat

/-- The exponent field. -/
def exponentField (x : Binary64) : Nat :=
  x.bits.toNat / fractionSize % exponentSize

/-- The fraction field. -/
def fraction (x : Binary64) : Nat :=
  x.bits.toNat % fractionSize

/-- The significand of a finite number. The leading bit is written only in its exponent. -/
def significand (x : Binary64) : Nat :=
  if x.exponentField = 0 then x.fraction else x.fraction + fractionSize

/-- The power of two that the significand of a finite number is multiplied by. -/
def exponent (x : Binary64) : Int :=
  (max x.exponentField 1 : Nat) - 1075

/-- The number is neither infinite nor undefined. -/
def IsFinite (x : Binary64) : Prop :=
  x.exponentField < exponentSize - 1

instance (x : Binary64) : Decidable x.IsFinite :=
  inferInstanceAs (Decidable (_ < _))

/-- The opposite number. -/
def neg (x : Binary64) : Binary64 :=
  ⟨x.bits ^^^ 0x8000000000000000⟩

/-- A power with a whole exponent, as numerator and denominator. -/
def powRatio (base : Nat) : Int → Nat × Nat
  | .ofNat n => (base.pow n, 1)
  | .negSucc n => (1, base.pow (n + 1))

/-- The size of a finite number, as numerator and denominator. -/
def ratio (x : Binary64) : Nat × Nat :=
  let power := powRatio 2 x.exponent
  (x.significand * power.1, power.2)

/-- The whole number nearest to a quotient, the even one of two. -/
def roundQuotient (num den : Nat) : Nat :=
  let low := num / den
  let rest := 2 * (num % den)
  if rest < den ∨ (rest = den ∧ low % 2 = 0) then low else low + 1

/-- The power of two that makes the significand of a quotient 53 bits long, or the smallest
power there is. -/
def quotientExponent (num den : Nat) : Int :=
  let guess : Int := (num.log2 : Int) - den.log2 - 52
  let power := powRatio 2 guess
  let exponent := if num * power.2 < fractionSize * (den * power.1) then guess - 1 else guess
  max exponent (-1074)

/-- The number nearest to a quotient, infinity where the quotient is too large. -/
def ofRatio (num den : Nat) : Binary64 :=
  if num = 0 then
    ⟨0⟩
  else
    let exponent := quotientExponent num den
    let power := powRatio 2 exponent
    let significand := roundQuotient (num * power.2) (den * power.1)
    let bits := (exponent + 1074).toNat * fractionSize + significand
    ⟨UInt64.ofNat (min bits 0x7ff0000000000000)⟩

/-- The number nearest to a natural. -/
def ofNat (n : Nat) : Binary64 :=
  ofRatio n 1

/-- The number nearest to the product of two sizes. -/
def mulSize (x y : Binary64) : Binary64 :=
  ofRatio (x.ratio.1 * y.ratio.1) (x.ratio.2 * y.ratio.2)

/-- The number nearest to the quotient of two sizes. -/
def divSize (x y : Binary64) : Binary64 :=
  ofRatio (x.ratio.1 * y.ratio.2) (x.ratio.2 * y.ratio.1)

/-! ### Rounding a quotient -/

/-- A quotient is rounded down or up. -/
theorem roundQuotient_eq_or (num den : Nat) :
    roundQuotient num den = num / den ∨ roundQuotient num den = num / den + 1 := by
  simp only [roundQuotient]
  split
  · exact Or.inl rfl
  · exact Or.inr rfl

/-- A rounded quotient is at most half a unit away. -/
theorem roundQuotient_near (num : Nat) {den : Nat} (h : 0 < den) :
    2 * num ≤ 2 * (den * roundQuotient num den) + den ∧
      2 * (den * roundQuotient num den) ≤ 2 * num + den := by
  have split_num := Nat.div_add_mod num den
  have rest_lt := Nat.mod_lt num h
  simp only [roundQuotient]
  split
  · omega
  · rw [Nat.mul_add]
    omega

end Binary64

end TypedCalls
