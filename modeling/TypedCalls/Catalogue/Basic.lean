import TypedCalls.Prim.Subtype

/-!
# Catalogues

A catalogue lists value types with their slots, their direct supertypes and their masks. Masks
are written down and not computed, so a catalogue may contradict itself. The rows come in any
order, may be missing, and may list a type twice; a look-up takes the first row of a type.
-/

namespace TypedCalls

/-- What a catalogue says of one value type. -/
structure Row where
  type : Prim
  slot : UInt8
  parents : List Prim
  mask : Mask
  deriving DecidableEq, Repr

/-- A list of rows. -/
abbrev Catalogue := List Row

namespace Catalogue

/-- The first row of a type. -/
def row? (rows : Catalogue) (p : Prim) : Option Row :=
  rows.find? (·.type = p)

/-- The direct supertypes of a type: none if it has no row. -/
def parentsOf (rows : Catalogue) (p : Prim) : List Prim :=
  match rows.row? p with
  | some row => row.parents
  | none => []

/-- The slot of a type: its usual one if it has no row. -/
def slotOf (rows : Catalogue) (p : Prim) : UInt8 :=
  match rows.row? p with
  | some row => row.slot
  | none => p.slot

/-- The transitive supertypes of the type of a row. -/
def ancestors (rows : Catalogue) (row : Row) : List Prim :=
  Prim.closure rows.parentsOf row.parents

/-- The mask that a row should have: its own slot and the slots of its ancestors. -/
def expectedMask (rows : Catalogue) (row : Row) : Mask :=
  Mask.ofSlots (row.slot :: (rows.ancestors row).map rows.slotOf)

end Catalogue

/-- The row that agrees with the value types themselves. -/
def Row.ofPrim (p : Prim) : Row :=
  ⟨p, p.slot, p.parents, p.mask⟩

/-- Every value type, by increasing slot. -/
def Catalogue.standard : Catalogue :=
  Prim.all.map Row.ofPrim

/-! ### Listings -/

/-- The line of a row: the name to the left of its column, the slot to the right of its own. -/
def Row.line (row : Row) : String :=
  let name := row.type.name.toList.rightpad 18 ' '
  let slot := (toString row.slot).toList.leftpad 2 ' '
  String.ofList (name ++ slot) ++ "  " ++ row.mask.toText ++ "\n"

/-- The lines of all rows. -/
def Catalogue.listing (rows : Catalogue) : String :=
  String.join (rows.map Row.line)

/-! ### Look-ups -/

namespace Catalogue

theorem row?_eq_none_iff {rows : Catalogue} {p : Prim} :
    rows.row? p = none ↔ ∀ row ∈ rows, row.type ≠ p := by
  simp [row?]

theorem row?_eq_some {rows : Catalogue} {p : Prim} {row : Row} (h : rows.row? p = some row) :
    row ∈ rows ∧ row.type = p :=
  ⟨List.mem_of_find?_eq_some h, by simpa using List.find?_some h⟩

theorem parentsOf_of_row?_eq_some {rows : Catalogue} {p : Prim} {row : Row}
    (found : rows.row? p = some row) : rows.parentsOf p = row.parents := by
  rw [parentsOf, found]

theorem parentsOf_of_row?_eq_none {rows : Catalogue} {p : Prim} (missing : rows.row? p = none) :
    rows.parentsOf p = [] := by
  rw [parentsOf, missing]

theorem mem_parentsOf_iff {rows : Catalogue} {p q : Prim} :
    q ∈ rows.parentsOf p ↔ ∃ row, rows.row? p = some row ∧ q ∈ row.parents := by
  unfold parentsOf
  cases rows.row? p <;> simp

theorem slotOf_of_row?_eq_some {rows : Catalogue} {p : Prim} {row : Row}
    (found : rows.row? p = some row) : rows.slotOf p = row.slot := by
  rw [slotOf, found]

theorem slotOf_of_row?_eq_none {rows : Catalogue} {p : Prim} (missing : rows.row? p = none) :
    rows.slotOf p = p.slot := by
  rw [slotOf, missing]

/-- No supertype is found twice. -/
theorem nodup_ancestors (rows : Catalogue) (row : Row) : (rows.ancestors row).Nodup :=
  Prim.nodup_closure rows.parentsOf row.parents

theorem mem_ancestors_iff {rows : Catalogue} {row : Row} {p : Prim} :
    p ∈ rows.ancestors row ↔ Prim.Above rows.parentsOf row.parents p :=
  Prim.mem_closure_iff

end Catalogue

end TypedCalls
