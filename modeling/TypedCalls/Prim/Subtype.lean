import TypedCalls.Prim.Ancestry
import TypedCalls.Prim.Mask

/-!
# Subtypes

A value type is a subtype of itself and of everything that can be reached along direct
supertypes. The test is one bit of the mask of the smaller type.

Main statements: the bit test agrees with the walk along direct supertypes, so being a subtype
is a partial order.
-/

namespace TypedCalls

namespace Prim

/-- The set that holds a value type alone. -/
def bit (p : Prim) : Mask :=
  Mask.ofSlot p.slot

/-- The set of a value type and of what lies at most `steps` steps above it. -/
def maskWithin : (steps : Nat) → Prim → Mask
  | 0, p => p.bit
  | steps + 1, p => p.parents.foldl (fun mask q => mask ||| maskWithin steps q) p.bit

/-- The set of a value type and all its supertypes. No chain of direct supertypes is longer
than three steps. -/
def mask (p : Prim) : Mask :=
  maskWithin 3 p

/-- One value type is another or one of those below it. -/
def IsSubtype (p q : Prim) : Prop :=
  p.mask.Holds q.slot

instance (p q : Prim) : Decidable (p.IsSubtype q) :=
  inferInstanceAs (Decidable (Mask.Holds _ _))

/-- The typed array views are what lies properly below the heap. -/
def IsArray (p : Prim) : Prop :=
  p ≠ heap ∧ p.IsSubtype heap

instance (p : Prim) : Decidable p.IsArray :=
  inferInstanceAs (Decidable (_ ∧ _))

/-! ### Masks and walks agree -/

/-- A mask is the bit of its type with the masks of the direct supertypes. -/
theorem mask_eq (p : Prim) :
    p.mask = p.parents.foldl (fun mask q => mask ||| q.mask) p.bit := by
  cases p <;> decide

private theorem isSubtype_iff_all :
    ∀ p ∈ all, ∀ q ∈ all, p.IsSubtype q ↔ p = q ∨ q ∈ p.ancestors := by
  decide +kernel

theorem isSubtype_iff {p q : Prim} : p.IsSubtype q ↔ p = q ∨ q ∈ p.ancestors :=
  isSubtype_iff_all p (mem_all p) q (mem_all q)

theorem isSubtype_iff_above {p q : Prim} :
    p.IsSubtype q ↔ p = q ∨ Above parents p.parents q := by
  rw [isSubtype_iff, ancestors, mem_closure_iff]

theorem Above.trans {next : Prim → List Prim} {listed : List Prim} {p q : Prim}
    (hp : Above next listed p) (hq : Above next (next p) q) : Above next listed q := by
  induction hq with
  | listed h => exact hp.parent h
  | parent _ h ih => exact ih.parent h

@[simp] theorem isSubtype_refl (p : Prim) : p.IsSubtype p :=
  isSubtype_iff.2 (Or.inl rfl)

theorem IsSubtype.trans {p q r : Prim} (hpq : p.IsSubtype q) (hqr : q.IsSubtype r) :
    p.IsSubtype r := by
  rw [isSubtype_iff_above] at *
  rcases hpq with rfl | hpq
  · exact hqr
  · rcases hqr with rfl | hqr
    · exact Or.inr hpq
    · exact Or.inr (hpq.trans hqr)

private theorem isSubtype_antisymm_all :
    ∀ p ∈ all, ∀ q ∈ all, p.IsSubtype q → q.IsSubtype p → p = q := by
  decide +kernel

theorem IsSubtype.antisymm {p q : Prim} (hpq : p.IsSubtype q) (hqp : q.IsSubtype p) : p = q :=
  isSubtype_antisymm_all p (mem_all p) q (mem_all q) hpq hqp

end Prim

end TypedCalls
