import TypedCalls.Proofs.Supertypes
import TypedCalls.Proofs.Traversal

/-!
# Catalogues that say the same

The check of a catalogue walks up from each row, and the order in which it meets the types above is
that of a stack: it depends on how the direct supertypes are listed, in this row and in all rows
that the walk comes by. The outcome does not. A row can list its supertypes in another order, or
more than once, or name types that lie above it anyway, and the catalogue may hold circles: the
check tells the same fault, or accepts as before.

Main statement: the outcome of the check depends on the listed supertypes only by what lies above
each row, and whether a catalogue with one row a type is accepted does not depend on the order of
its rows.
-/

namespace TypedCalls

/-- What lies above along lists that name only what lies above along other lists lies above along
those as well. -/
theorem Prim.Above.of_redundant {next next' : Prim → List Prim} {listed listed' : List Prim}
    {p : Prim} (h : Above next' listed' p) (start : ∀ q ∈ listed', Above next listed q)
    (step : ∀ r, ∀ q ∈ next' r, Above next (next r) q) : Above next listed p := by
  induction h with
  | listed named => exact start _ named
  | parent _ named ih => exact ih.trans (step _ _ named)

/-- A union of slots does not depend on their order, or on how often each is named. -/
theorem Mask.ofSlots_congr {slots slots' : List UInt8} (same : ∀ s, s ∈ slots ↔ s ∈ slots') :
    ofSlots slots = ofSlots slots' := by
  refine ext fun n => ?_
  simp only [getLsbD_ofSlots, List.any_eq_true, same]

/-- Two rows have the same type, slot and mask. -/
structure Row.Agrees (row other : Row) : Prop where
  type : other.type = row.type
  slot : other.slot = row.slot
  mask : other.mask = row.mask

namespace Catalogue

/-- A row of one catalogue and a row of another have the same type, slot and mask, and the same
types lie above them. -/
structure SameAbove (rows others : Catalogue) (row other : Row) : Prop
    extends row.Agrees other where
  above : ∀ p, others.LiesAbove other p ↔ rows.LiesAbove row p

/-- A row has the type, slot and mask of a row of the catalogue and names its direct supertypes, in
any order and as often as it likes, and besides only types that lie above that row. -/
structure Rewords (rows : Catalogue) (row other : Row) : Prop extends row.Agrees other where
  kept : ∀ p ∈ row.parents, p ∈ other.parents
  redundant : ∀ p ∈ other.parents, rows.LiesAbove row p

section

variable {rows others : Catalogue} {row other : Row}

/-! ### Slots -/

/-- The slot of a row is judged by the slots before it. -/
theorem slotFault?_congr {earlier earlier' : List Row}
    (before : earlier.Forall₂ Row.Agrees earlier') (h : row.Agrees other) :
    slotFault? earlier' other = slotFault? earlier row := by
  have owners : Option.Rel Row.Agrees (earlier.find? (·.slot = row.slot))
      (earlier'.find? (·.slot = row.slot)) :=
    rel_find? before fun x y agree => by rw [agree.slot]
  unfold slotFault?
  rw [h.slot, h.type]
  generalize earlier.find? (·.slot = row.slot) = mine,
    earlier'.find? (·.slot = row.slot) = theirs at owners ⊢
  rcases owners with agree | _
  · rw [Option.map_some, Option.map_some, agree.type]
  · rfl

theorem firstSlotFault?_congr {earlier earlier' : List Row}
    (before : earlier.Forall₂ Row.Agrees earlier') (agree : rows.Forall₂ Row.Agrees others) :
    firstSlotFault? earlier' others = firstSlotFault? earlier rows := by
  induction agree generalizing earlier earlier' with
  | nil => rfl
  | cons first _ ih =>
    rw [firstSlotFault?, firstSlotFault?, slotFault?_congr before first,
      ih (List.rel_append before (.cons first .nil))]

/-- Rows that agree leave each type its slot. -/
theorem slotOf_congr (agree : rows.Forall₂ Row.Agrees others) (p : Prim) :
    others.slotOf p = rows.slotOf p := by
  have found : Option.Rel Row.Agrees (rows.row? p) (others.row? p) :=
    rel_find? agree fun x y agree => by rw [agree.type]
  unfold slotOf
  generalize rows.row? p = mine, others.row? p = theirs at found ⊢
  rcases found with agree | _
  · exact agree.slot
  · rfl

/-! ### Supertypes and masks -/

/-- The mask that a row should have depends on the types above it, whatever their order. -/
theorem SameAbove.expectedMask_eq (h : SameAbove rows others row other)
    (agree : rows.Forall₂ Row.Agrees others) :
    others.expectedMask other = rows.expectedMask row := by
  refine Mask.ofSlots_congr fun s => ?_
  simp only [List.mem_cons, List.mem_map, mem_ancestors_iff_liesAbove, h.above, h.slot,
    slotOf_congr agree]

theorem SameAbove.maskFault?_eq (h : SameAbove rows others row other)
    (agree : rows.Forall₂ Row.Agrees others) : others.maskFault? other = rows.maskFault? row := by
  unfold maskFault?
  simp only [mem_ancestors_iff_liesAbove, h.above, h.type, h.mask, h.expectedMask_eq agree]

/-- Catalogues in which the same types lie above each row have the same outcome. -/
theorem verify_congr (h : rows.Forall₂ (SameAbove rows others) others) :
    others.verify = rows.verify := by
  have agree : rows.Forall₂ Row.Agrees others := h.imp fun _ _ same => same.toAgrees
  have masks : rows.findSome? rows.maskFault? = others.findSome? others.maskFault? :=
    findSome?_eq_of_forall₂ h fun _ _ same => (same.maskFault?_eq agree).symm
  unfold verify firstFault?
  rw [firstSlotFault?_congr .nil agree, masks]

/-- The direct supertypes of a type are still named, and all that is named lies above the type. -/
theorem parentsOf_of_rewords (h : rows.Forall₂ rows.Rewords others) (p : Prim) :
    (∀ q ∈ rows.parentsOf p, q ∈ others.parentsOf p) ∧
      ∀ q ∈ others.parentsOf p, Prim.Above rows.parentsOf (rows.parentsOf p) q := by
  have found : Option.Rel rows.Rewords (rows.row? p) (others.row? p) :=
    rel_find? h fun x y same => by rw [same.type]
  rcases hp : rows.row? p with _ | row <;> rcases hp' : others.row? p with _ | other <;>
    rw [hp, hp'] at found
  · simp [parentsOf_of_row?_eq_none hp, parentsOf_of_row?_eq_none hp']
  · cases found
  · cases found
  · obtain ⟨same⟩ := found
    rw [parentsOf_of_row?_eq_some hp, parentsOf_of_row?_eq_some hp']
    exact ⟨same.kept, fun q hq => liesAbove_iff_above.1 (same.redundant q hq)⟩

theorem sameAbove_of_rewords (h : rows.Forall₂ rows.Rewords others) :
    rows.Forall₂ (SameAbove rows others) others := by
  refine h.imp fun row other same => ⟨same.toAgrees, fun p => ?_⟩
  rw [liesAbove_iff_above, liesAbove_iff_above]
  constructor
  · intro above
    refine above.of_redundant (fun q hq => ?_) fun r => (parentsOf_of_rewords h r).2
    exact liesAbove_iff_above.1 (same.redundant q hq)
  · intro above
    exact above.of_redundant (fun q hq => .listed (same.kept q hq))
      fun r q hq => .listed ((parentsOf_of_rewords h r).1 q hq)

/-! ### The order of the rows -/

/-- With one row a type, the order of the rows does not matter to what a type is looked up as. -/
theorem row?_of_perm (distinct : (rows.map Row.type).Nodup) (reordered : rows.Perm others)
    (p : Prim) : others.row? p = rows.row? p := by
  have distinct' : (others.map Row.type).Nodup := (reordered.map Row.type).nodup_iff.1 distinct
  refine Option.ext fun row => ?_
  rw [row?_eq_some_iff distinct, row?_eq_some_iff distinct', reordered.mem_iff]

/-- With one row a type, a consistent catalogue is consistent in any order. -/
theorem Consistent.of_perm (h : rows.Consistent) (distinct : (rows.map Row.type).Nodup)
    (reordered : rows.Perm others) : others.Consistent := by
  have parents : others.parentsOf = rows.parentsOf := by
    funext p
    rw [parentsOf, parentsOf, row?_of_perm distinct reordered]
  have slots : others.slotOf = rows.slotOf := by
    funext p
    rw [slotOf, slotOf, row?_of_perm distinct reordered]
  refine ⟨⟨?_, ?_⟩, ?_⟩
  · intro row hrow
    exact h.slots.range row (reordered.mem_iff.2 hrow)
  · exact (reordered.map Row.slot).nodup_iff.1 h.slots.distinct
  · intro row hrow
    obtain ⟨acyclic, exact⟩ := h.sound row (reordered.mem_iff.2 hrow)
    have above : ∀ p, others.LiesAbove row p ↔ rows.LiesAbove row p := by
      intro p
      rw [liesAbove_iff_above, liesAbove_iff_above, parents]
    refine ⟨fun circle => acyclic ((above _).1 circle), fun n => ?_⟩
    simp only [exact, due_iff, above, slots]

end

/-- The outcome of the check depends on the listed supertypes only by what lies above each row. It
is the same, to the bits that a fault tells, for a catalogue with the same types, slots and masks in
which the same types lie above each row. So it is if in any of the rows the direct supertypes are
listed in another order, or more than once, or together with types that lie above the row already.
If no type has two rows, then the order of the rows does not matter to whether a catalogue is
accepted. -/
theorem verify_depends_on_supertypes_only (rows : Catalogue) :
    (∀ others : Catalogue, rows.Forall₂ (SameAbove rows others) others →
      others.verify = rows.verify) ∧
    (∀ others : Catalogue, rows.Forall₂ rows.Rewords others → others.verify = rows.verify) ∧
    ((rows.map Row.type).Nodup → ∀ others : Catalogue, rows.Perm others →
      (others.verify = .ok () ↔ rows.verify = .ok ())) := by
  refine ⟨fun others h => verify_congr h,
    fun others h => verify_congr (sameAbove_of_rewords h), fun distinct others reordered => ?_⟩
  have distinct' : (others.map Row.type).Nodup := (reordered.map Row.type).nodup_iff.1 distinct
  rw [verify_eq_ok_iff, verify_eq_ok_iff]
  constructor
  · intro sound
    exact sound.of_perm distinct' reordered.symm
  · intro sound
    exact sound.of_perm distinct reordered

/-- A catalogue in which `signed` and `int` lie above each other, and both above `fixnum`. The mask
of `fixnum` lacks the bit of `int`. -/
def circular : Catalogue :=
  [⟨.fixnum, 12, [.signed], 0x1400#32⟩, ⟨.signed, 10, [.int], 0x600#32⟩,
    ⟨.int, 9, [.signed], 0x600#32⟩]

/-- The same with longer lists: `fixnum` also names `int`, and `signed` itself, which lies above
itself already, and both name `int` twice. -/
def circularAtLength : Catalogue :=
  [⟨.fixnum, 12, [.int, .signed, .int], 0x1400#32⟩, ⟨.signed, 10, [.int, .signed, .int], 0x600#32⟩,
    ⟨.int, 9, [.signed], 0x600#32⟩]

/-- Both tell the missing bit of `fixnum`, before they come to the circle. And the standard
catalogue is accepted from its last row to its first. -/
theorem circular_faults_alike :
    circular.Forall₂ (SameAbove circular circularAtLength) circularAtLength ∧
      circular.Forall₂ circular.Rewords circularAtLength ∧
      circular.verify = .error (.missingBits .fixnum 0x200#32) ∧
      circularAtLength.verify = circular.verify ∧
      circularAtLength.verify = .error (.missingBits .fixnum 0x200#32) ∧
      (standard.map Row.type).Nodup ∧ standard.Perm standard.reverse ∧
      Catalogue.verify standard.reverse = .ok () := by
  have longer : circular.Forall₂ circular.Rewords circularAtLength :=
    .cons ⟨⟨rfl, rfl, rfl⟩, by decide, by decide +kernel⟩
      (.cons ⟨⟨rfl, rfl, rfl⟩, by decide, by decide +kernel⟩
        (.cons ⟨⟨rfl, rfl, rfl⟩, by decide, by decide +kernel⟩ .nil))
  have fault : circular.verify = .error (.missingBits .fixnum 0x200#32) := by decide +kernel
  have distinct : (standard.map Row.type).Nodup := by decide
  have reversed : standard.Perm standard.reverse := standard.reverse_perm.symm
  obtain ⟨same, reworded, -⟩ := verify_depends_on_supertypes_only circular
  obtain ⟨-, -, reordered⟩ := verify_depends_on_supertypes_only standard
  have above := sameAbove_of_rewords longer
  exact ⟨above, longer, fault, same _ above, (reworded _ longer).trans fault, distinct, reversed,
    (reordered distinct _ reversed).2 verify_standard⟩

end Catalogue

end TypedCalls
