import TypedCalls.Datum.Basic

/-!
# Numerals

A numeral is a run of digits, perhaps with a sign, a fraction and a power of ten. A plain run of
digits stands for a whole number if 64 bits can hold it. Any other numeral stands for a binary
floating point number: its digits are read as one whole number as long as 64 bits can hold
it, the whole number is rounded, and the result is scaled by a rounded power of ten.
-/

namespace TypedCalls

/-- A number as it is written. Digits are naturals below ten. -/
structure Numeral where
  negative : Bool
  whole : List Nat
  fraction : Option (List Nat)
  exponent : Option Int
  deriving DecidableEq, Repr

/-- Digits read so far: a whole number that 64 bits can hold, times a power of ten. -/
structure Significand where
  value : Nat
  exponent : Int
  full : Bool
  deriving DecidableEq, Repr

namespace Significand

/-- Read one more digit, which moves the power of ten by `step` if there is room for it and by
`skip` if there is none. -/
def read (step skip : Int) (s : Significand) (digit : Nat) : Significand :=
  let value := 10 * s.value + digit
  if s.full = false ∧ value < UInt64.size then
    ⟨value, s.exponent + step, false⟩
  else
    ⟨s.value, s.exponent + skip, true⟩

/-- The number of a significand with a further power of ten, infinity if it is too large. -/
def scale (s : Significand) (exponent : Int) : Binary64 :=
  let start := Binary64.ofNat s.value
  let exponent := s.exponent + exponent
  if s.value = 0 then
    start
  else if 308 < exponent then
    ⟨0x7ff0000000000000⟩
  else if 0 ≤ exponent then
    start.mulSize (Binary64.ofNat (Nat.pow 10 exponent.toNat))
  else
    let size := exponent.natAbs
    let steps := min ((size - 1) / 308) 4
    let lowered := steps.repeat (·.divSize (Binary64.ofNat (Nat.pow 10 308))) start
    lowered.divSize (Binary64.ofNat (Nat.pow 10 (min (size - 308 * steps) 308)))

end Significand

namespace Numeral

/-- The natural that digits stand for. -/
def natOfDigits (digits : List Nat) : Nat :=
  digits.foldl (fun n digit => 10 * n + digit) 0

/-- The floating point number of a numeral. -/
def toBinary64 (n : Numeral) : Binary64 :=
  let whole := n.whole.foldl (Significand.read 0 1) ⟨0, 0, false⟩
  let both := (n.fraction.getD []).foldl (Significand.read (-1) 0) { whole with full := false }
  let size := both.scale (n.exponent.getD 0)
  if n.negative then size.neg else size

/-- The number of a numeral. A zero with a sign is no whole number. -/
def toDatum (n : Numeral) : Datum :=
  let size := natOfDigits n.whole
  if n.fraction.isSome ∨ n.exponent.isSome then
    .real n.toBinary64
  else if n.negative = false ∧ size < UInt64.size then
    .int size
  else if n.negative = true ∧ 0 < size ∧ size ≤ UInt64.size / 2 then
    .int (-(size : Int))
  else
    .real n.toBinary64

end Numeral

end TypedCalls
