import TypedCalls.Catalogue.Basic

/-!
# Verified catalogues

A catalogue is consistent when its slots lie between 1 and 31 and no two rows share one, no
type is above itself, and each mask is the one that the direct supertypes call for. All slots
are looked at before any mask.

Main statement: the standard catalogue is consistent.
-/

namespace TypedCalls

/-- What is wrong with a catalogue. -/
inductive Fault where
  /-- Slot 0 is never used. -/
  | zeroSlot (type : Prim)
  /-- A mask has no bit for the slot. -/
  | slotOutOfRange (type : Prim) (slot : UInt8)
  /-- A row takes the slot of an earlier one. -/
  | sharedSlot (first second : Prim) (slot : UInt8)
  /-- A type is above itself. -/
  | cyclic (type : Prim)
  /-- A mask holds slots that it should not hold. -/
  | strayBits (type : Prim) (bits : Mask)
  /-- A mask lacks slots that it should hold. -/
  | missingBits (type : Prim) (bits : Mask)
  deriving DecidableEq, Repr

/-- The wording of a fault. -/
def Fault.message : Fault → String
  | zeroSlot type => s!"`{type}` uses slot 0"
  | slotOutOfRange type slot => s!"`{type}` uses slot {slot}, past the last mask bit"
  | sharedSlot first second slot => s!"`{first}` and `{second}` share slot {slot}"
  | cyclic type => s!"`{type}` is its own ancestor"
  | strayBits type bits => s!"`{type}` mask has stray bits {bits.toText}"
  | missingBits type bits => s!"`{type}` mask is missing ancestor bits {bits.toText}"

namespace Catalogue

/-- What is wrong with the slot of a row that follows the given ones. -/
def slotFault? (earlier : List Row) (row : Row) : Option Fault :=
  if row.slot = 0 then
    some (.zeroSlot row.type)
  else if Prim.slotCount ≤ row.slot.toNat then
    some (.slotOutOfRange row.type row.slot)
  else
    (earlier.find? (·.slot = row.slot)).map fun first =>
      .sharedSlot first.type row.type row.slot

/-- The first slot that is wrong among rows that follow the given ones. -/
def firstSlotFault? (earlier : List Row) : List Row → Option Fault
  | [] => none
  | row :: rest =>
    match slotFault? earlier row with
    | some fault => some fault
    | none => firstSlotFault? (earlier ++ [row]) rest

/-- What is wrong with the supertypes or the mask of a row. -/
def maskFault? (rows : Catalogue) (row : Row) : Option Fault :=
  let expected := rows.expectedMask row
  let stray := row.mask &&& ~~~expected
  let missing := expected &&& ~~~row.mask
  if row.type ∈ rows.ancestors row then
    some (.cyclic row.type)
  else if stray ≠ 0#32 then
    some (.strayBits row.type stray)
  else if missing ≠ 0#32 then
    some (.missingBits row.type missing)
  else
    none

/-- The first fault of a catalogue, wrong slots before all else. -/
def firstFault? (rows : Catalogue) : Option Fault :=
  match firstSlotFault? [] rows with
  | some fault => some fault
  | none => rows.findSome? rows.maskFault?

/-- Accept a consistent catalogue, or tell its first fault. -/
def verify (rows : Catalogue) : Except Fault Unit :=
  match rows.firstFault? with
  | some fault => .error fault
  | none => .ok ()

/-! ### The standard catalogue -/

theorem firstFault?_standard : firstFault? standard = none := by
  decide +kernel

/-- The value types agree with themselves. -/
theorem verify_standard : verify standard = .ok () := by
  simp [verify, firstFault?_standard]

end Catalogue

end TypedCalls
