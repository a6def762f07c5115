import TypedCalls.Binary64.Basic

/-!
# Shortest decimal text

A finite number is written with the fewest decimal digits that read back to it, the nearest
such digits if there are several, and the even ones of two that are equally near.

The choice of digits is arithmetic on naturals. The layout of the digits is a record.

Main statement: the digits that are found round to the number.
-/

namespace TypedCalls

/-- The reals that round to a number, all multiplied by `scale`: the number is `mid`, its
interval goes from `low` to `high`, and the ends belong to it if `closed` holds. -/
structure RoundingInterval where
  low : Nat
  mid : Nat
  high : Nat
  scale : Nat
  closed : Bool

/-- A decimal: the digits as a natural, times a power of ten. -/
structure Decimal where
  digits : Nat
  exponent : Int
  deriving DecidableEq, Repr

namespace RoundingInterval

/-- The interval of a finite number. Its lower end is nearer where the number below has a
smaller exponent. -/
def ofBinary64 (x : Binary64) : RoundingInterval :=
  let m := x.significand
  let power := Binary64.powRatio 2 (x.exponent - 2)
  let below := if x.fraction = 0 ∧ 1 < x.exponentField then 1 else 2
  ⟨(4 * m - below) * power.1, 4 * m * power.1, (4 * m + 2) * power.1, power.2, m % 2 = 0⟩

/-- A decimal rounds to the number of the interval. -/
def contains (r : RoundingInterval) (d : Decimal) : Bool :=
  let power := Binary64.powRatio 10 d.exponent
  let value := d.digits * power.1 * r.scale
  let low := r.low * power.2
  let high := r.high * power.2
  (low < value ∧ value < high) ∨ (r.closed = true ∧ (low = value ∨ value = high))

/-- The decimal with a given power of ten that rounds to the number of the interval: of the two
next to the number, the nearer one if both do. -/
def nearest? (r : RoundingInterval) (exponent : Int) : Option Decimal :=
  let power := Binary64.powRatio 10 exponent
  let num := r.mid * power.2
  let den := r.scale * power.1
  let low : Decimal := ⟨num / den, exponent⟩
  let high : Decimal := ⟨num / den + 1, exponent⟩
  match r.contains low, r.contains high with
  | true, true => some ⟨Binary64.roundQuotient num den, exponent⟩
  | true, false => some low
  | false, true => some high
  | false, false => none

/-- A decimal that is found rounds to the number of the interval. -/
theorem contains_of_nearest? {r : RoundingInterval} {exponent : Int} {d : Decimal}
    (h : r.nearest? exponent = some d) : r.contains d = true := by
  simp only [nearest?] at h
  split at h
  · rename_i low high
    obtain rfl := Option.some.inj h
    rcases Binary64.roundQuotient_eq_or (r.mid * (Binary64.powRatio 10 exponent).2)
      (r.scale * (Binary64.powRatio 10 exponent).1) with eq | eq
    · rw [eq]
      exact low
    · rw [eq]
      exact high
  · rename_i low _
    exact Option.some.inj h ▸ low
  · rename_i _ high
    exact Option.some.inj h ▸ high
  · simp at h

end RoundingInterval

/-- The powers of ten that a shortest decimal can need, the largest first. -/
def Decimal.exponents : List Int :=
  (List.range 640).map fun n : Nat => 309 - (n : Int)

/-- The decimal with the largest power of ten that reads back to a finite number. -/
def Binary64.shortest (x : Binary64) : Decimal :=
  let interval := RoundingInterval.ofBinary64 x
  (Decimal.exponents.findSome? interval.nearest?).getD ⟨0, 0⟩

/-! ### Layout -/

/-- How the digits of a decimal are laid out. -/
structure DecimalLayout where
  /-- The smallest exponent of the leading digit that is written without a power of ten. -/
  firstPositional : Int
  /-- The largest exponent of the leading digit that is written without a power of ten. -/
  lastPositional : Int
  /-- What follows the digits of a whole number. -/
  wholeSuffix : String
  /-- The mark of a power of ten that is not negative. -/
  raised : String
  /-- The mark of a negative power of ten. -/
  lowered : String

/-- Small and large numbers have a power of ten with its sign, and whole numbers end in a zero
behind the point. -/
def DecimalLayout.plain : DecimalLayout :=
  ⟨-5, 15, ".0", "e+", "e-"⟩

/-- A run of zeros. -/
def zeros (n : Nat) : String :=
  String.ofList (List.replicate n '0')

namespace DecimalLayout

/-- Digits with a point behind the leading ones. -/
def positional (layout : DecimalLayout) (digits : List Char) (leading : Int) : String :=
  if leading < 0 then
    "0." ++ zeros (leading + 1).natAbs ++ String.ofList digits
  else
    let whole := leading.toNat + 1
    if digits.length ≤ whole then
      String.ofList digits ++ zeros (whole - digits.length) ++ layout.wholeSuffix
    else
      String.ofList (digits.take whole) ++ "." ++ String.ofList (digits.drop whole)

/-- Digits with a point behind the first one and a power of ten. -/
def scientific (layout : DecimalLayout) (digits : List Char) (leading : Int) : String :=
  let mark := if leading < 0 then layout.lowered else layout.raised
  let point := if digits.length ≤ 1 then "" else "."
  String.ofList (digits.take 1) ++ point ++ String.ofList (digits.drop 1) ++ mark ++
    toString leading.natAbs

/-- The text of a decimal. -/
def format (layout : DecimalLayout) (d : Decimal) : String :=
  if d.digits = 0 then
    "0" ++ layout.wholeSuffix
  else
    let digits := Nat.toDigits 10 d.digits
    let leading := d.exponent + digits.length - 1
    if layout.firstPositional ≤ leading ∧ leading ≤ layout.lastPositional then
      layout.positional digits leading
    else
      layout.scientific digits leading

end DecimalLayout

/-- The text of a finite number. -/
def Binary64.toText (x : Binary64) : String :=
  let size := if x.significand = 0 then ⟨0, 0⟩ else x.shortest
  (if x.negative then "-" else "") ++ DecimalLayout.plain.format size

end TypedCalls
