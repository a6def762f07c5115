import TypedCalls.Prim.Basic

/-!
# Boundaries

What becomes of a value type when its value crosses a function boundary or is read from or
written to a typed array view, and which operands may be compared. A type that a table does not
cover goes to `bottom`.
-/

namespace TypedCalls

namespace Prim

/-! ### Function boundaries -/

/-- The canonical form of a returned value's type. -/
def returned : Prim → Prim
  | signed | fixnum => signed
  | double => double
  | float => float
  | void => void
  | _ => bottom

/-- The types that a function may declare for its result. -/
def resultTypes : List Prim :=
  [double, signed, float, void]

/-- The canonical form of a passed value's type. -/
def passed : Prim → Prim
  | int | signed | unsigned | fixnum => int
  | double => double
  | float => float
  | _ => bottom

/-- The types that a function may declare for a parameter. -/
def parameterTypes : List Prim :=
  [double, int, float]

/-- The types whose values a relational operator compares. -/
def comparableTypes : List Prim :=
  [double, signed, unsigned, float]

/-! ### Typed array views -/

/-- The width in bytes of an element of a typed array view. -/
def elementSize? : Prim → Option Nat
  | int8Array | uint8Array => some 1
  | int16Array | uint16Array => some 2
  | int32Array | uint32Array | float32Array => some 4
  | float64Array => some 8
  | _ => none

/-- The type of an element read from a view. -/
def loaded : Prim → Prim
  | int8Array | uint8Array | int16Array | uint16Array | int32Array | uint32Array => intish
  | float32Array => maybeFloat
  | float64Array => maybeDouble
  | _ => bottom

/-- The type that an element written to a view may have. A float view also takes values of a
wider type, as it rounds them. -/
def stored : Prim → Prim
  | int8Array | uint8Array | int16Array | uint16Array | int32Array | uint32Array => intish
  | float32Array => floatishOrMaybeDouble
  | float64Array => maybeFloatOrMaybeDouble
  | _ => bottom

/-! ### Canonical forms are declarable -/

theorem returned_mem_resultTypes {p : Prim} (h : p.returned ≠ bottom) :
    p.returned ∈ resultTypes := by
  revert h
  cases p <;> decide

theorem passed_mem_parameterTypes {p : Prim} (h : p.passed ≠ bottom) :
    p.passed ∈ parameterTypes := by
  revert h
  cases p <;> decide

end Prim

end TypedCalls
