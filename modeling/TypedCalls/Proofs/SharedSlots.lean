import TypedCalls.Proofs.Supertypes

/-!
# Slots that two types share

A catalogue may leave out the rows of some direct supertypes. Such a type keeps its usual slot. The
check of the slots goes from row to row and does not see it, so a row of another type can stand in
that slot, and then one bit of a mask stands for two types. In an accepted catalogue this is the
only way in which two types can share a slot: rows have slots of their own, and so do the types that
no row moves.

Main statement: in an accepted catalogue with one row a type, a mask has one bit more than its type
has supertypes, less one for each supertype that has lost its usual slot to the type itself or to
another of its supertypes.
-/

namespace TypedCalls

namespace Catalogue

/-- A type has a row, and this row has the usual slot of another type, which has no row. -/
def Displaces (rows : Catalogue) (p q : Prim) : Prop :=
  ∃ row ∈ rows, row.type = p ∧ row.slot = q.slot ∧ ∀ r ∈ rows, r.type ≠ q

/-- The types above a row whose usual slots belong to the row, or to rows of other types above. -/
def displaced (rows : Catalogue) (row : Row) : Set Prim :=
  {q | rows.LiesAbove row q ∧ ∃ p ∈ rows.lineage row, rows.Displaces p q}

section

variable {rows : Catalogue} {row : Row} {p q : Prim}

/-! ### Types with the same slot -/

/-- A type that is displaced has no row. -/
theorem Displaces.ne_type (h : rows.Displaces p q) (hrow : row ∈ rows) : row.type ≠ q := by
  obtain ⟨-, -, -, -, unlisted⟩ := h
  exact unlisted row hrow

/-- A type that stands in the usual slot of another has its slot. -/
theorem Displaces.slotOf_eq (h : rows.Displaces p q) (distinct : (rows.map Row.type).Nodup) :
    rows.slotOf p = rows.slotOf q := by
  obtain ⟨row, hrow, rfl, taken, unlisted⟩ := h
  have missing : rows.row? q = none := row?_eq_none_iff.2 unlisted
  rw [slotOf_type distinct hrow, slotOf_of_row?_eq_none missing, taken]

/-- If the slots of the rows are sound, types with the same slot are the same, or one of them has a
row that stands in the usual slot of the other. -/
theorem SlotsSound.displaces_of_slotOf_eq (h : rows.SlotsSound)
    (same : rows.slotOf p = rows.slotOf q) :
    p = q ∨ rows.Displaces p q ∨ rows.Displaces q p := by
  rcases hp : rows.row? p with _ | r <;> rcases hq : rows.row? q with _ | s
  · rw [slotOf_of_row?_eq_none hp, slotOf_of_row?_eq_none hq] at same
    exact .inl (Prim.slot_injective same)
  · rw [slotOf_of_row?_eq_none hp, slotOf_of_row?_eq_some hq] at same
    obtain ⟨held, type⟩ := row?_eq_some hq
    exact .inr (.inr ⟨s, held, type, same.symm, row?_eq_none_iff.1 hp⟩)
  · rw [slotOf_of_row?_eq_some hp, slotOf_of_row?_eq_none hq] at same
    obtain ⟨held, type⟩ := row?_eq_some hp
    exact .inr (.inl ⟨r, held, type, same, row?_eq_none_iff.1 hq⟩)
  · rw [slotOf_of_row?_eq_some hp, slotOf_of_row?_eq_some hq] at same
    obtain ⟨held, rfl⟩ := row?_eq_some hp
    obtain ⟨held', rfl⟩ := row?_eq_some hq
    exact .inl (congrArg Row.type (h.eq_of_slot held held' (congrArg UInt8.toNat same)))

theorem SlotsSound.slotOf_eq_iff (h : rows.SlotsSound) (distinct : (rows.map Row.type).Nodup) :
    rows.slotOf p = rows.slotOf q ↔ p = q ∨ rows.Displaces p q ∨ rows.Displaces q p := by
  constructor
  · exact h.displaces_of_slotOf_eq
  · rintro (rfl | displaces | displaces)
    · rfl
    · exact displaces.slotOf_eq distinct
    · exact (displaces.slotOf_eq distinct).symm

/-! ### The lineage of a row without what is displaced -/

theorem displaced_subset_lineage (rows : Catalogue) (row : Row) :
    rows.displaced row ⊆ rows.lineage row :=
  fun _ h => .inr h.1

theorem finite_displaced (rows : Catalogue) (row : Row) : (rows.displaced row).Finite :=
  (finite_lineage rows row).subset (displaced_subset_lineage rows row)

/-- A type in the lineage of a row whose usual slot is taken from within the lineage is displaced:
the type of the row itself has a row. -/
theorem mem_displaced_of_displaces (hrow : row ∈ rows) (hp : p ∈ rows.lineage row)
    (hq : q ∈ rows.lineage row) (h : rows.Displaces p q) : q ∈ rows.displaced row := by
  rcases hq with rfl | above
  · exact absurd rfl (h.ne_type hrow)
  · exact ⟨above, p, hp, h⟩

/-- A type with a row keeps the slot of its row. -/
theorem Displaces.notMem_displaced (h : rows.Displaces p q) (row : Row) :
    p ∉ rows.displaced row := by
  obtain ⟨r, held, rfl, -⟩ := h
  rintro ⟨-, p, -, gone⟩
  exact gone.ne_type held rfl

/-- The types in the lineage of a row that are not displaced have different slots. -/
theorem SlotsSound.injOn_slotOf_sdiff (h : rows.SlotsSound) (hrow : row ∈ rows) :
    Set.InjOn (fun p => (rows.slotOf p).toNat) (rows.lineage row \ rows.displaced row) := by
  rintro p ⟨hp, kept⟩ q ⟨hq, kept'⟩ same
  rcases h.displaces_of_slotOf_eq (UInt8.toNat_inj.1 same) with equal | displaces | displaces
  · exact equal
  · exact absurd (mem_displaced_of_displaces hrow hp hq displaces) kept'
  · exact absurd (mem_displaced_of_displaces hrow hq hp displaces) kept

/-- What is displaced adds no slot to the lineage of a row. -/
theorem image_slotOf_sdiff (distinct : (rows.map Row.type).Nodup) :
    (fun p => (rows.slotOf p).toNat) '' (rows.lineage row \ rows.displaced row) =
      (fun p => (rows.slotOf p).toNat) '' rows.lineage row := by
  refine Set.Subset.antisymm (Set.image_mono Set.sdiff_subset) ?_
  rintro _ ⟨q, hq, rfl⟩
  by_cases gone : q ∈ rows.displaced row
  · obtain ⟨-, p, hp, displaces⟩ := gone
    refine ⟨p, ⟨hp, displaces.notMem_displaced row⟩, ?_⟩
    exact congrArg UInt8.toNat (displaces.slotOf_eq distinct)
  · exact ⟨q, ⟨hq, gone⟩, rfl⟩

/-- The bits of a mask and the displaced types are as many as the types in the lineage. -/
theorem Consistent.toNat_cpop_mask_add (sound : rows.Consistent)
    (distinct : (rows.map Row.type).Nodup) (hrow : row ∈ rows) :
    row.mask.cpop.toNat + (rows.displaced row).ncard =
      1 + {p | rows.LiesAbove row p}.ncard := by
  calc row.mask.cpop.toNat + (rows.displaced row).ncard
      = (rows.lineage row \ rows.displaced row).ncard + (rows.displaced row).ncard := by
        rw [sound.toNat_cpop_mask distinct hrow, ← image_slotOf_sdiff distinct,
          (sound.slots.injOn_slotOf_sdiff hrow).ncard_image]
    _ = (rows.lineage row).ncard :=
        Set.ncard_sdiff_add_ncard_of_subset (displaced_subset_lineage rows row)
          (finite_lineage rows row)
    _ = 1 + {p | rows.LiesAbove row p}.ncard := sound.ncard_lineage hrow

end

/-! ### Shared slots in an accepted catalogue -/

/-- Take an accepted catalogue in which no type has two rows, while direct supertypes may have none.
Two types share a slot only if one of them has a row, and that row stands in the usual slot of the
other, which has none. A mask holds the slots of the type of its row and of the types above it. Its
bits, together with the types above that have lost their slot to another of these types, are one
more than the types above. So each of these types has a bit of its own exactly if the mask has one
bit more than there are types above, and exactly if none of them has lost its slot. -/
theorem slots_shared_by_displacement {rows : Catalogue} (distinct : (rows.map Row.type).Nodup)
    (accepted : rows.verify = .ok ()) :
    (∀ p q, rows.slotOf p = rows.slotOf q ↔
      p = q ∨ rows.Displaces p q ∨ rows.Displaces q p) ∧
    ∀ row ∈ rows,
      (∀ n, row.mask.getLsbD n = true ↔ ∃ p ∈ rows.lineage row, (rows.slotOf p).toNat = n) ∧
      row.mask.cpop.toNat + (rows.displaced row).ncard = 1 + {p | rows.LiesAbove row p}.ncard ∧
      (Set.InjOn rows.slotOf (rows.lineage row) ↔ rows.displaced row = ∅) ∧
      (row.mask.cpop.toNat = 1 + {p | rows.LiesAbove row p}.ncard ↔ rows.displaced row = ∅) := by
  have sound : rows.Consistent := verify_eq_ok_iff.1 accepted
  refine ⟨fun p q => sound.slots.slotOf_eq_iff distinct, fun row hrow => ?_⟩
  have count := sound.toNat_cpop_mask_add distinct hrow
  refine ⟨sound.getLsbD_mask distinct hrow, count, ?_, ?_⟩
  · rw [Set.eq_empty_iff_forall_notMem]
    constructor
    · rintro own q ⟨above, p, hp, displaces⟩
      have equal : p = q := own hp (.inr above) (displaces.slotOf_eq distinct)
      subst equal
      exact displaces.notMem_displaced row ⟨above, p, hp, displaces⟩
    · intro none p hp q hq same
      rcases sound.slots.displaces_of_slotOf_eq same with equal | displaces | displaces
      · exact equal
      · exact absurd (mem_displaced_of_displaces hrow hp hq displaces) (none q)
      · exact absurd (mem_displaced_of_displaces hrow hq hp displaces) (none p)
  · rw [← Set.ncard_eq_zero (finite_displaced rows row)]
    omega

/-- A catalogue without a row for `intish`, in which `int` stands in the usual slot of `intish`. -/
def crowded : Catalogue :=
  [⟨.int, 8, [.intish], 0x100#32⟩, ⟨.signed, 10, [.int, .external], 0x520#32⟩]

theorem verify_crowded : crowded.verify = .ok () := by
  decide +kernel

/-- An accepted catalogue with one row a type in which `int` and `intish` share a slot. Both lie
above `signed`, whose mask has three bits for the type and its three supertypes. -/
theorem crowded_shares_slot :
    (crowded.map Row.type).Nodup ∧ crowded.verify = .ok () ∧
      ∃ row ∈ crowded, crowded.LiesAbove row .int ∧ crowded.LiesAbove row .intish ∧
        crowded.slotOf .int = crowded.slotOf .intish ∧
        row.mask.cpop.toNat ≠ 1 + {p | crowded.LiesAbove row p}.ncard := by
  refine ⟨by decide, verify_crowded, ⟨.signed, 10, [.int, .external], 0x520#32⟩, by decide,
    by decide +kernel, by decide +kernel, by decide, ?_⟩
  rw [ncard_liesAbove]
  decide +kernel

/-- `int` takes the slot of `intish`, which is one of the supertypes of `signed` that lack a bit. -/
theorem intish_displaced_in_crowded :
    (crowded.map Row.type).Nodup ∧ crowded.verify = .ok () ∧ crowded.Displaces .int .intish ∧
      crowded.slotOf .int = crowded.slotOf .intish ∧
      ∃ row ∈ crowded, row.type = .signed ∧ (crowded.displaced row).ncard = 1 := by
  have distinct : (crowded.map Row.type).Nodup := by decide
  have displaces : crowded.Displaces .int .intish :=
    ⟨⟨.int, 8, [.intish], 0x100#32⟩, by decide, rfl, rfl, by decide⟩
  have signed : ⟨.signed, 10, [.int, .external], 0x520#32⟩ ∈ crowded := by decide
  obtain ⟨shared, counts⟩ := slots_shared_by_displacement distinct verify_crowded
  obtain ⟨-, count, -⟩ := counts _ signed
  refine ⟨distinct, verify_crowded, displaces, (shared _ _).2 (.inr (.inl displaces)), _, signed,
    rfl, ?_⟩
  have bits : (0x520#32).cpop.toNat = 3 := by decide
  have above : (crowded.ancestors ⟨.signed, 10, [.int, .external], 0x520#32⟩).length = 3 := by
    decide +kernel
  rw [ncard_liesAbove, above, bits] at count
  omega

end Catalogue

end TypedCalls
