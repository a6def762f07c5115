import TypedCalls.Prim.Basic

/-!
# Masks

A set of value types as a 32-bit word, one bit a slot.

Main statements: which slots a mask with one slot holds, and which a union of them holds.
-/

namespace TypedCalls

/-- A set of value types: bit `n` tells whether the type in slot `n` is a member. -/
abbrev Mask := BitVec 32

namespace Mask

/-- The set that holds one slot, or nothing where the slot is past the last bit. -/
def ofSlot (slot : UInt8) : Mask :=
  BitVec.twoPow 32 slot.toNat

/-- The set that holds each slot of a list. -/
def ofSlots (slots : List UInt8) : Mask :=
  slots.foldl (fun mask slot => mask ||| ofSlot slot) 0#32

/-- The mask and the set of one slot have a member in common. -/
def Holds (mask : Mask) (slot : UInt8) : Prop :=
  mask &&& ofSlot slot ≠ 0#32

instance (mask : Mask) (slot : UInt8) : Decidable (mask.Holds slot) :=
  inferInstanceAs (Decidable (_ ≠ _))

/-- A mask as eight hexadecimal digits. -/
def toText (mask : Mask) : String :=
  "0x" ++ mask.toHex

/-! ### Bits -/

theorem getLsbD_ofSlot (slot : UInt8) (n : Nat) :
    (ofSlot slot).getLsbD n = (decide (slot.toNat < 32) && decide (slot.toNat = n)) :=
  BitVec.getLsbD_twoPow ..

theorem holds_iff {mask : Mask} {slot : UInt8} (h : slot.toNat < 32) :
    mask.Holds slot ↔ mask.getLsbD slot.toNat = true := by
  constructor
  · intro common
    by_cases bit : mask.getLsbD slot.toNat = true
    · exact bit
    · refine absurd (BitVec.eq_of_getLsbD_eq fun n _ => ?_) common
      by_cases hn : slot.toNat = n
      · subst hn
        simp [bit]
      · simp [getLsbD_ofSlot, hn]
  · intro bit none
    have := congrArg (BitVec.getLsbD · slot.toNat) none
    simp only [BitVec.getLsbD_and, bit, getLsbD_ofSlot, h] at this
    simp at this

private theorem getLsbD_foldl (slots : List UInt8) (mask : Mask) (n : Nat) :
    (slots.foldl (fun mask slot => mask ||| ofSlot slot) mask).getLsbD n =
      (mask.getLsbD n || slots.any fun slot => (ofSlot slot).getLsbD n) := by
  induction slots generalizing mask with
  | nil => simp
  | cons slot slots ih =>
    rw [List.foldl_cons, ih, List.any_cons, BitVec.getLsbD_or, Bool.or_assoc]

theorem getLsbD_ofSlots (slots : List UInt8) (n : Nat) :
    (ofSlots slots).getLsbD n = slots.any fun slot => (ofSlot slot).getLsbD n := by
  simp [ofSlots, getLsbD_foldl]

end Mask

end TypedCalls
