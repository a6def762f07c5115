/-!
# Value types

The value types of asm.js code: what a number, a typed array view of the heap, or the absence
of a value can be. Each has a slot (its bit in a 32-bit set of types), a canonical name and a
list of direct supertypes. Everything else known about value types is derived from these three
tables. Each has an identifier besides, for the diagnostics of a program.

Main statements: slots and names tell value types apart, so a slot or a name reads back to the
type it came from.
-/

namespace TypedCalls

/-- A value type of asm.js. A `maybe` type also allows an undefined value, an `ish` type is the
result of an operation that has not been coerced yet, and `bottom` is "no type". -/
inductive Prim where
  | heap
  | floatishOrMaybeDouble
  | maybeFloatOrMaybeDouble
  | void
  | external
  | maybeDouble
  | double
  | intish
  | int
  | signed
  | unsigned
  | fixnum
  | floatish
  | maybeFloat
  | float
  | uint8Array
  | int8Array
  | uint16Array
  | int16Array
  | uint32Array
  | int32Array
  | float32Array
  | float64Array
  | bottom
  deriving DecidableEq, Repr, Inhabited

namespace Prim

/-- Every value type, by increasing slot. -/
def all : List Prim :=
  [heap, floatishOrMaybeDouble, maybeFloatOrMaybeDouble, void, external, maybeDouble, double,
    intish, int, signed, unsigned, fixnum, floatish, maybeFloat, float, uint8Array, int8Array,
    uint16Array, int16Array, uint32Array, int32Array, float32Array, float64Array, bottom]

/-- How many slots a set of value types has. -/
def slotCount : Nat := 32

/-- The position of a value type in a set of value types. Slot 0 stays free, and bottom takes
the last slot. -/
def slot : Prim → UInt8
  | heap => 1
  | floatishOrMaybeDouble => 2
  | maybeFloatOrMaybeDouble => 3
  | void => 4
  | external => 5
  | maybeDouble => 6
  | double => 7
  | intish => 8
  | int => 9
  | signed => 10
  | unsigned => 11
  | fixnum => 12
  | floatish => 13
  | maybeFloat => 14
  | float => 15
  | uint8Array => 16
  | int8Array => 17
  | uint16Array => 18
  | int16Array => 19
  | uint32Array => 20
  | int32Array => 21
  | float32Array => 22
  | float64Array => 23
  | bottom => 31

/-- The canonical name of a value type. -/
def name : Prim → String
  | heap => "[]"
  | floatishOrMaybeDouble => "floatish|double?"
  | maybeFloatOrMaybeDouble => "float?|double?"
  | void => "void"
  | external => "extern"
  | maybeDouble => "double?"
  | double => "double"
  | intish => "intish"
  | int => "int"
  | signed => "signed"
  | unsigned => "unsigned"
  | fixnum => "fixnum"
  | floatish => "floatish"
  | maybeFloat => "float?"
  | float => "float"
  | uint8Array => "Uint8Array"
  | int8Array => "Int8Array"
  | uint16Array => "Uint16Array"
  | int16Array => "Int16Array"
  | uint32Array => "Uint32Array"
  | int32Array => "Int32Array"
  | float32Array => "Float32Array"
  | float64Array => "Float64Array"
  | bottom => "<none>"

/-- The identifier of a value type. -/
def identifier : Prim → String
  | heap => "Heap"
  | floatishOrMaybeDouble => "FloatishDoubleQ"
  | maybeFloatOrMaybeDouble => "FloatQDoubleQ"
  | void => "Void"
  | external => "Extern"
  | maybeDouble => "DoubleQ"
  | double => "Double"
  | intish => "Intish"
  | int => "Int"
  | signed => "Signed"
  | unsigned => "Unsigned"
  | fixnum => "FixNum"
  | floatish => "Floatish"
  | maybeFloat => "FloatQ"
  | float => "Float"
  | uint8Array => "Uint8Array"
  | int8Array => "Int8Array"
  | uint16Array => "Uint16Array"
  | int16Array => "Int16Array"
  | uint32Array => "Uint32Array"
  | int32Array => "Int32Array"
  | float32Array => "Float32Array"
  | float64Array => "Float64Array"
  | bottom => "None"

/-- The direct supertypes of a value type. -/
def parents : Prim → List Prim
  | floatishOrMaybeDouble => [floatish, maybeDouble]
  | maybeFloatOrMaybeDouble => [maybeFloat, maybeDouble]
  | double => [maybeDouble, external]
  | int => [intish]
  | signed => [int, external]
  | unsigned => [int]
  | fixnum => [signed, unsigned]
  | maybeFloat => [floatish]
  | float => [maybeFloat]
  | uint8Array | int8Array | uint16Array | int16Array
  | uint32Array | int32Array | float32Array | float64Array => [heap]
  | heap | void | external | maybeDouble | intish | floatish | bottom => []

/-- The value type in a slot. -/
def ofSlot? (slot : UInt8) : Option Prim :=
  all.find? (·.slot = slot)

/-- The value type of a canonical name. -/
def ofName? (name : String) : Option Prim :=
  all.find? (·.name = name)

instance : ToString Prim := ⟨name⟩

/-- Value types are ordered by slot. -/
instance : Ord Prim := ⟨fun p q => compare p.slot q.slot⟩

/-- The value types of a list, by increasing slot. -/
def sort (ps : List Prim) : List Prim :=
  ps.mergeSort fun p q => decide (p.slot ≤ q.slot)

/-! ### Slots and names tell value types apart -/

@[simp] theorem mem_all (p : Prim) : p ∈ all := by
  cases p <;> decide

theorem nodup_all : all.Nodup := by
  decide

@[simp] theorem ofSlot?_slot (p : Prim) : ofSlot? p.slot = some p := by
  cases p <;> rfl

theorem slot_injective {p q : Prim} (h : p.slot = q.slot) : p = q := by
  simpa using congrArg ofSlot? h

@[simp] theorem ofName?_name (p : Prim) : ofName? p.name = some p := by
  cases p <;> decide

theorem name_injective {p q : Prim} (h : p.name = q.name) : p = q := by
  simpa using congrArg ofName? h

theorem ofSlot?_eq_some_iff {n : UInt8} {p : Prim} : ofSlot? n = some p ↔ p.slot = n := by
  refine ⟨fun h => by simpa using List.find?_some h, ?_⟩
  rintro rfl
  exact ofSlot?_slot p

theorem ofName?_eq_some_iff {s : String} {p : Prim} : ofName? s = some p ↔ p.name = s := by
  refine ⟨fun h => by simpa using List.find?_some h, ?_⟩
  rintro rfl
  exact ofName?_name p

theorem slot_pos (p : Prim) : 0 < p.slot.toNat := by
  cases p <;> decide

theorem slot_lt_slotCount (p : Prim) : p.slot.toNat < slotCount := by
  cases p <;> decide

end Prim

end TypedCalls
