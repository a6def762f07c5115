import Mathlib.Data.List.Nodup
import Mathlib.Logic.Relation
import TypedCalls.Catalogue.Verify

/-!
# Consistent catalogues

A catalogue is consistent if each slot belongs to one row, no type lies above itself, and each mask
holds the slots of its type and of the types above it, and no others. Direct supertypes may run in
circles, and a type may have several rows, of which the first counts, or none, and then it has its
usual slot and no supertypes.

The check goes through the rows twice, for their slots and then for their supertypes and masks, and
stops at the first row that is wrong.

Main statements: the check accepts the consistent catalogues and no others, and what it tells of any
other is the first fault.
-/

namespace TypedCalls

/-! ### Masks bit by bit -/

namespace Mask

/-- Masks that hold the same slots are equal. -/
theorem ext {mask other : Mask}
    (same : ∀ n, mask.getLsbD n = true ↔ other.getLsbD n = true) : mask = other :=
  BitVec.eq_of_getLsbD_eq fun n _ => Bool.eq_iff_iff.2 (same n)

theorem eq_zero_iff {mask : Mask} : mask = 0#32 ↔ ∀ n, mask.getLsbD n ≠ true := by
  constructor
  · rintro rfl n
    simp
  · intro empty
    refine ext fun n => ?_
    simp [empty n]

theorem getLsbD_and_not {mask other : Mask} {n : Nat} :
    (mask &&& ~~~other).getLsbD n = true ↔ mask.getLsbD n = true ∧ other.getLsbD n ≠ true := by
  rw [BitVec.getLsbD_and, BitVec.getLsbD_not, Bool.and_eq_true, Bool.and_eq_true,
    Bool.not_eq_true', ne_eq, Bool.not_eq_true, decide_eq_true_eq]
  constructor
  · rintro ⟨bit, -, free⟩
    exact ⟨bit, free⟩
  · rintro ⟨bit, free⟩
    exact ⟨bit, BitVec.lt_of_getLsbD bit, free⟩

end Mask

/-! ### Steps up -/

/-- What is listed or lies above is what some listed type leads to in any number of steps. -/
theorem Prim.above_iff_reflTransGen {next : Prim → List Prim} {listed : List Prim} {p : Prim} :
    Above next listed p ↔ ∃ q ∈ listed, Relation.ReflTransGen (fun r s => s ∈ next r) q p := by
  constructor
  · intro above
    induction above with
    | @listed p named => exact ⟨p, named, .refl⟩
    | parent _ step ih =>
      obtain ⟨q, named, reached⟩ := ih
      exact ⟨q, named, reached.tail step⟩
  · rintro ⟨q, named, reached⟩
    induction reached with
    | refl => exact .listed named
    | tail _ step above => exact above.parent step

namespace Catalogue

/-! ### What a catalogue should say -/

/-- A row is of a type, and no row before it is. -/
def IsFirstRow (rows : Catalogue) (p : Prim) (row : Row) : Prop :=
  ∃ before after, rows = before ++ row :: after ∧ (∀ r ∈ before, r.type ≠ p) ∧ row.type = p

/-- The first row of one type lists another as a direct supertype. -/
def FirstLists (rows : Catalogue) (p q : Prim) : Prop :=
  ∃ row, rows.IsFirstRow p row ∧ q ∈ row.parents

/-- The slot of a type is that of its first row, or the usual one if it has no row. -/
inductive HasSlot (rows : Catalogue) (p : Prim) : UInt8 → Prop where
  | listed {row : Row} (first : rows.IsFirstRow p row) : HasSlot rows p row.slot
  | usual (unlisted : ∀ row ∈ rows, row.type ≠ p) : HasSlot rows p p.slot

/-- A type lies above a row: some direct supertype of the row leads to it in any number of steps,
each from a type to a direct supertype in its first row. -/
def LiesAbove (rows : Catalogue) (row : Row) (p : Prim) : Prop :=
  ∃ q ∈ row.parents, Relation.ReflTransGen rows.FirstLists q p

/-- The slots that the mask of a row should hold: that of the row, and that of each type above. -/
def Due (rows : Catalogue) (row : Row) (n : Nat) : Prop :=
  n = row.slot.toNat ∨ ∃ p slot, rows.LiesAbove row p ∧ rows.HasSlot p slot ∧ n = slot.toNat

/-- The slots are in range, and no two rows share one. -/
structure SlotsSound (rows : Catalogue) : Prop where
  range : ∀ row ∈ rows, 1 ≤ row.slot.toNat ∧ row.slot.toNat ≤ 31
  distinct : (rows.map Row.slot).Nodup

/-- The type of a row is not above itself, and the mask holds what it should. -/
structure RowSound (rows : Catalogue) (row : Row) : Prop where
  acyclic : ¬ rows.LiesAbove row row.type
  mask_exact : ∀ n, row.mask.getLsbD n = true ↔ rows.Due row n

/-- The slots are sound, and so is each row. -/
structure Consistent (rows : Catalogue) : Prop where
  slots : rows.SlotsSound
  sound : ∀ row ∈ rows, rows.RowSound row

/-- What is wrong with the slot of a row that comes after others. -/
inductive SlotFault (earlier : Catalogue) (row : Row) : Fault → Prop where
  | zero (unset : row.slot = 0) : SlotFault earlier row (.zeroSlot row.type)
  | outOfRange (past : 32 ≤ row.slot.toNat) :
      SlotFault earlier row (.slotOutOfRange row.type row.slot)
  | shared {owner : Row} (held : owner ∈ earlier) (same : owner.slot = row.slot) :
      SlotFault earlier row (.sharedSlot owner.type row.type row.slot)

/-- What is wrong with a row whose slot is sound. A circle comes first, then the slots that the mask
should not hold, all together, and then those that it lacks, all together. -/
inductive RowFault (rows : Catalogue) (row : Row) : Fault → Prop where
  | cyclic (circle : rows.LiesAbove row row.type) : RowFault rows row (.cyclic row.type)
  | stray {bits : Mask} (acyclic : ¬ rows.LiesAbove row row.type)
      (exact : ∀ n, bits.getLsbD n = true ↔ row.mask.getLsbD n = true ∧ ¬ rows.Due row n)
      (some : bits ≠ 0#32) : RowFault rows row (.strayBits row.type bits)
  | missing {bits : Mask} (acyclic : ¬ rows.LiesAbove row row.type)
      (within : ∀ n, row.mask.getLsbD n = true → rows.Due row n)
      (exact : ∀ n, bits.getLsbD n = true ↔ rows.Due row n ∧ row.mask.getLsbD n ≠ true)
      (some : bits ≠ 0#32) : RowFault rows row (.missingBits row.type bits)

/-- The first fault of a catalogue: of the first row whose slot is wrong, or, if all slots are
sound, of the first row that is wrong. -/
inductive FirstFault (rows : Catalogue) : Fault → Prop where
  | slot {before after : Catalogue} {row : Row} {fault : Fault}
      (place : rows = before ++ row :: after) (sound : SlotsSound before)
      (wrong : SlotFault before row fault) : FirstFault rows fault
  | row {before after : Catalogue} {row : Row} {fault : Fault} (slots : rows.SlotsSound)
      (place : rows = before ++ row :: after) (sound : ∀ r ∈ before, rows.RowSound r)
      (wrong : rows.RowFault row fault) : FirstFault rows fault

/-! ### First rows and look-ups -/

section

variable {rows : Catalogue} {row : Row} {p q : Prim}

/-- A look-up finds the first row of a type. -/
theorem isFirstRow_iff : rows.IsFirstRow p row ↔ rows.row? p = some row := by
  unfold IsFirstRow row?
  rw [List.find?_eq_some_iff_append]
  constructor
  · rintro ⟨before, after, place, others, same⟩
    exact ⟨by simpa using same, before, after, place, fun r hr => by simpa using others r hr⟩
  · rintro ⟨same, before, after, place, others⟩
    exact ⟨before, after, place, fun r hr => by simpa using others r hr, by simpa using same⟩

theorem IsFirstRow.mem (h : rows.IsFirstRow p row) : row ∈ rows := by
  obtain ⟨before, after, rfl, -⟩ := h
  simp

theorem firstLists_iff : rows.FirstLists p q ↔ q ∈ rows.parentsOf p := by
  rw [mem_parentsOf_iff]
  simp only [FirstLists, isFirstRow_iff]

theorem hasSlot_iff {slot : UInt8} : rows.HasSlot p slot ↔ rows.slotOf p = slot := by
  constructor
  · rintro (first | unlisted)
    · exact slotOf_of_row?_eq_some (isFirstRow_iff.1 first)
    · exact slotOf_of_row?_eq_none (row?_eq_none_iff.2 unlisted)
  · rintro rfl
    cases found : rows.row? p with
    | none =>
      rw [slotOf_of_row?_eq_none found]
      exact .usual (row?_eq_none_iff.1 found)
    | some row =>
      rw [slotOf_of_row?_eq_some found]
      exact .listed (isFirstRow_iff.2 found)

/-- What lies above a row can be told by look-ups. -/
theorem liesAbove_iff_above : rows.LiesAbove row p ↔ Prim.Above rows.parentsOf row.parents p := by
  have steps : rows.FirstLists = fun p q => q ∈ rows.parentsOf p := by
    funext p q
    exact propext firstLists_iff
  rw [Prim.above_iff_reflTransGen, LiesAbove, steps]

/-- The walk up from a row finds what lies above it. -/
theorem mem_ancestors_iff_liesAbove : p ∈ rows.ancestors row ↔ rows.LiesAbove row p := by
  rw [mem_ancestors_iff, liesAbove_iff_above]

instance (rows : Catalogue) (row : Row) (p : Prim) : Decidable (rows.LiesAbove row p) :=
  decidable_of_iff _ mem_ancestors_iff_liesAbove

/-- What is due to a mask can be told by look-ups. -/
theorem due_iff {n : Nat} : rows.Due row n ↔
    n = row.slot.toNat ∨ ∃ p, rows.LiesAbove row p ∧ n = (rows.slotOf p).toNat := by
  simp only [Due, hasSlot_iff, exists_and_left, exists_eq_left']

end

/-! ### Slots -/

section

variable {earlier rows : Catalogue} {row : Row} {fault : Fault}

/-- Rows with sound slots are told apart by them. -/
theorem SlotsSound.eq_of_slot (h : rows.SlotsSound) {other : Row} (hrow : row ∈ rows)
    (hother : other ∈ rows) (same : row.slot.toNat = other.slot.toNat) : row = other :=
  List.inj_on_of_nodup_map h.distinct hrow hother (UInt8.toNat_inj.1 same)

/-- Among rows that a key tells apart, a look-up by the key finds the row that has it. -/
theorem find?_key_eq_some_iff {κ : Type} [DecidableEq κ] {key : Row → κ}
    (distinct : (rows.map key).Nodup) {k : κ} :
    rows.find? (key · = k) = some row ↔ row ∈ rows ∧ key row = k := by
  constructor
  · intro found
    exact ⟨List.mem_of_find?_eq_some found, by simpa using List.find?_some found⟩
  · rintro ⟨held, rfl⟩
    cases found : rows.find? (key · = key row) with
    | none => simpa using List.find?_eq_none.1 found row held
    | some other =>
      have same : key other = key row := by simpa using List.find?_some found
      rw [List.inj_on_of_nodup_map distinct (List.mem_of_find?_eq_some found) held same]

theorem ne_zero_of_one_le {slot : UInt8} (positive : 1 ≤ slot.toNat) : slot ≠ 0 := by
  rintro rfl
  exact absurd positive (by decide)

theorem slotsSound_nil : SlotsSound [] :=
  ⟨by simp, List.nodup_nil⟩

theorem SlotsSound.of_append (h : SlotsSound (earlier ++ rows)) : SlotsSound earlier := by
  obtain ⟨range, distinct⟩ := h
  rw [List.map_append] at distinct
  exact ⟨fun row hrow => range row (List.mem_append_left rows hrow), distinct.of_append_left⟩

/-- One more row keeps the slots sound if its slot is in range and not taken. -/
theorem slotsSound_concat :
    SlotsSound (earlier ++ [row]) ↔
      SlotsSound earlier ∧ (1 ≤ row.slot.toNat ∧ row.slot.toNat ≤ 31) ∧
        ∀ owner ∈ earlier, owner.slot ≠ row.slot := by
  constructor
  · intro h
    refine ⟨h.of_append, h.range row (by simp), ?_⟩
    intro owner held same
    have distinct := h.distinct
    rw [List.map_append, List.nodup_append] at distinct
    exact distinct.2.2 _ (List.mem_map_of_mem held) _ (by simp) same
  · rintro ⟨h, inRange, free⟩
    constructor
    · intro r hr
      rcases List.mem_append.1 hr with hr | hr
      · exact h.range r hr
      · exact List.mem_singleton.1 hr ▸ inRange
    · rw [List.map_append, List.nodup_append]
      refine ⟨h.distinct, List.nodup_singleton _, ?_⟩
      intro slot hslot other hother
      obtain ⟨owner, held, rfl⟩ := List.mem_map.1 hslot
      exact List.mem_singleton.1 hother ▸ free owner held

/-- The check of a slot tells what is wrong with it, if the slots before are sound. -/
theorem SlotsSound.slotFault?_eq_some_iff (h : SlotsSound earlier) :
    slotFault? earlier row = some fault ↔ SlotFault earlier row fault := by
  have owned : ∀ owner, earlier.find? (·.slot = row.slot) = some owner ↔
      owner ∈ earlier ∧ owner.slot = row.slot := fun owner => find?_key_eq_some_iff h.distinct
  unfold slotFault?
  constructor
  · intro found
    split at found
    · rename_i unset
      obtain rfl := Option.some.inj found
      exact .zero unset
    · split at found
      · rename_i past
        obtain rfl := Option.some.inj found
        exact .outOfRange past
      · obtain ⟨owner, taken, rfl⟩ := Option.map_eq_some_iff.1 found
        obtain ⟨held, same⟩ := (owned owner).1 taken
        exact .shared held same
  · intro wrong
    cases wrong with
    | zero unset => rw [if_pos unset]
    | outOfRange past =>
      have set : row.slot ≠ 0 := ne_zero_of_one_le (by omega)
      have past : Prim.slotCount ≤ row.slot.toNat := past
      rw [if_neg set, if_pos past]
    | @shared owner held same =>
      -- The owner's slot is in range, so the earlier questions do not apply to this row either.
      obtain ⟨positive, small⟩ := same ▸ h.range owner held
      have set : row.slot ≠ 0 := ne_zero_of_one_le positive
      have inRange : ¬ Prim.slotCount ≤ row.slot.toNat := Nat.not_le_of_lt (Nat.lt_succ_of_le small)
      rw [if_neg set, if_neg inRange, (owned owner).2 ⟨held, same⟩, Option.map_some]

/-- A slot passes its check exactly if it keeps the slots sound. -/
theorem SlotsSound.slotFault?_eq_none_iff (h : SlotsSound earlier) :
    slotFault? earlier row = none ↔ SlotsSound (earlier ++ [row]) := by
  rw [slotsSound_concat, Option.eq_none_iff_forall_ne_some]
  constructor
  · intro sound
    have faultless : ∀ fault, ¬ SlotFault earlier row fault :=
      fun fault wrong => sound fault (h.slotFault?_eq_some_iff.2 wrong)
    refine ⟨h, ⟨?_, ?_⟩, ?_⟩
    · by_contra unset
      exact faultless _ (.zero (UInt8.toNat_inj.1 (by simpa using unset)))
    · by_contra past
      exact faultless _ (.outOfRange (by omega))
    · intro owner held same
      exact faultless _ (.shared held same)
  · rintro ⟨-, ⟨positive, small⟩, free⟩ fault found
    cases h.slotFault?_eq_some_iff.1 found with
    | zero unset => exact ne_zero_of_one_le positive unset
    | outOfRange past => omega
    | shared held same => exact free _ held same

/-- The check of all slots passes exactly if they are sound together with those before. -/
theorem SlotsSound.firstSlotFault?_eq_none_iff (h : SlotsSound earlier) :
    firstSlotFault? earlier rows = none ↔ SlotsSound (earlier ++ rows) := by
  induction rows generalizing earlier with
  | nil => simp [firstSlotFault?, h]
  | cons row rest ih =>
    have place : earlier ++ row :: rest = (earlier ++ [row]) ++ rest := by simp
    rw [firstSlotFault?, place]
    cases found : slotFault? earlier row with
    | some fault =>
      refine iff_of_false (Option.some_ne_none fault) ?_
      intro sound
      rw [h.slotFault?_eq_none_iff.2 sound.of_append] at found
      cases found
    | none => exact ih (h.slotFault?_eq_none_iff.1 found)

/-- The check of all slots tells what is wrong with the first that is not sound. -/
theorem SlotsSound.firstSlotFault?_eq_some_iff (h : SlotsSound earlier) :
    firstSlotFault? earlier rows = some fault ↔
      ∃ before row after, rows = before ++ row :: after ∧ SlotsSound (earlier ++ before) ∧
        SlotFault (earlier ++ before) row fault := by
  induction rows generalizing earlier with
  | nil => simp [firstSlotFault?]
  | cons row rest ih =>
    have shift : ∀ before : Catalogue, earlier ++ row :: before = (earlier ++ [row]) ++ before := by
      simp
    rw [firstSlotFault?]
    cases found : slotFault? earlier row with
    | some other =>
      have wrong : SlotFault earlier row other := h.slotFault?_eq_some_iff.1 found
      constructor
      · intro same
        obtain rfl := Option.some.inj same
        exact ⟨[], row, rest, rfl, by simpa using h, by simpa using wrong⟩
      · rintro ⟨before, r, after, place, sound, first⟩
        cases before with
        | nil =>
          obtain ⟨rfl, rfl⟩ := List.cons.inj place
          rw [List.append_nil, ← h.slotFault?_eq_some_iff, found] at first
          exact first
        | cons b before =>
          -- The row that is wrong would stand among those that are sound.
          obtain ⟨rfl, rfl⟩ := List.cons.inj place
          rw [shift] at sound
          rw [h.slotFault?_eq_none_iff.2 sound.of_append] at found
          cases found
    | none =>
      have sound : SlotsSound (earlier ++ [row]) := h.slotFault?_eq_none_iff.1 found
      rw [ih sound]
      constructor
      · rintro ⟨before, r, after, rfl, sound, first⟩
        exact ⟨row :: before, r, after, rfl, shift before ▸ sound, shift before ▸ first⟩
      · rintro ⟨before, r, after, place, sound, first⟩
        cases before with
        | nil =>
          obtain ⟨rfl, rfl⟩ := List.cons.inj place
          rw [List.append_nil, ← h.slotFault?_eq_some_iff, found] at first
          cases first
        | cons b before =>
          obtain ⟨rfl, rfl⟩ := List.cons.inj place
          exact ⟨before, r, after, rfl, shift before ▸ sound, shift before ▸ first⟩

end

/-! ### Supertypes and masks -/

section

variable {rows : Catalogue} {row : Row} {fault : Fault}

/-- If the slots of the rows are sound, all types have a slot in range, also those without a row. -/
theorem SlotsSound.slotOf_range (h : rows.SlotsSound) (p : Prim) :
    1 ≤ (rows.slotOf p).toNat ∧ (rows.slotOf p).toNat ≤ 31 := by
  unfold slotOf
  split
  · rename_i row found
    exact h.range row (row?_eq_some found).1
  · exact ⟨p.slot_pos, Nat.le_of_lt_succ p.slot_lt_slotCount⟩

/-- The mask that the check computes holds exactly the slots that are due. -/
theorem SlotsSound.getLsbD_expectedMask (h : rows.SlotsSound) (hrow : row ∈ rows) (n : Nat) :
    (rows.expectedMask row).getLsbD n = true ↔ rows.Due row n := by
  have inRange : row.slot.toNat < 32 := Nat.lt_succ_of_le (h.range row hrow).2
  have others : ∀ p, (rows.slotOf p).toNat < 32 := fun p => Nat.lt_succ_of_le (h.slotOf_range p).2
  simp only [expectedMask, Mask.getLsbD_ofSlots, Mask.getLsbD_ofSlot, List.any_cons, List.any_map,
    Bool.or_eq_true, List.any_eq_true, Function.comp_apply, inRange, others, decide_true,
    Bool.true_and, decide_eq_true_eq, mem_ancestors_iff_liesAbove, due_iff, @eq_comm _ n]

/-- The slots that a mask holds without need. -/
theorem SlotsSound.getLsbD_stray (h : rows.SlotsSound) (hrow : row ∈ rows) (n : Nat) :
    (row.mask &&& ~~~rows.expectedMask row).getLsbD n = true ↔
      row.mask.getLsbD n = true ∧ ¬ rows.Due row n := by
  rw [Mask.getLsbD_and_not, ne_eq, h.getLsbD_expectedMask hrow]

/-- The slots that a mask lacks. -/
theorem SlotsSound.getLsbD_missing (h : rows.SlotsSound) (hrow : row ∈ rows) (n : Nat) :
    (rows.expectedMask row &&& ~~~row.mask).getLsbD n = true ↔
      rows.Due row n ∧ row.mask.getLsbD n ≠ true := by
  rw [Mask.getLsbD_and_not, h.getLsbD_expectedMask hrow]

theorem SlotsSound.stray_eq_zero_iff (h : rows.SlotsSound) (hrow : row ∈ rows) :
    row.mask &&& ~~~rows.expectedMask row = 0#32 ↔
      ∀ n, row.mask.getLsbD n = true → rows.Due row n := by
  simp only [Mask.eq_zero_iff, ne_eq, h.getLsbD_stray hrow, not_and, not_not]

theorem SlotsSound.missing_eq_zero_iff (h : rows.SlotsSound) (hrow : row ∈ rows) :
    rows.expectedMask row &&& ~~~row.mask = 0#32 ↔
      ∀ n, rows.Due row n → row.mask.getLsbD n = true := by
  simp only [Mask.eq_zero_iff, ne_eq, h.getLsbD_missing hrow, not_and, not_not]

/-- The check of a row tells what is wrong with it, if the slots are sound. -/
theorem SlotsSound.maskFault?_eq_some_iff (h : rows.SlotsSound) (hrow : row ∈ rows) :
    rows.maskFault? row = some fault ↔ rows.RowFault row fault := by
  simp only [maskFault?, mem_ancestors_iff_liesAbove]
  constructor
  · intro found
    split at found
    · rename_i above
      obtain rfl := Option.some.inj found
      exact .cyclic above
    · rename_i acyclic
      split at found
      · rename_i some
        obtain rfl := Option.some.inj found
        exact .stray acyclic (h.getLsbD_stray hrow) some
      · rename_i none
        split at found
        · rename_i some
          obtain rfl := Option.some.inj found
          have within := (h.stray_eq_zero_iff hrow).1 (not_not.1 none)
          exact .missing acyclic within (h.getLsbD_missing hrow) some
        · cases found
  · intro wrong
    cases wrong with
    | cyclic above => rw [if_pos above]
    | stray acyclic exact some =>
      have bits := Mask.ext fun n => (h.getLsbD_stray hrow n).trans (exact n).symm
      rw [← bits] at some ⊢
      rw [if_neg acyclic, if_pos some]
    | missing acyclic within exact some =>
      have none := (h.stray_eq_zero_iff hrow).2 within
      have bits := Mask.ext fun n => (h.getLsbD_missing hrow n).trans (exact n).symm
      rw [← bits] at some ⊢
      rw [if_neg acyclic, if_neg (not_not.2 none), if_pos some]

/-- A row passes its check exactly if it is sound. -/
theorem SlotsSound.maskFault?_eq_none_iff (h : rows.SlotsSound) (hrow : row ∈ rows) :
    rows.maskFault? row = none ↔ rows.RowSound row := by
  have stray := h.stray_eq_zero_iff hrow
  have missing := h.missing_eq_zero_iff hrow
  simp only [maskFault?, mem_ancestors_iff_liesAbove]
  constructor
  · intro passed
    split at passed
    · cases passed
    · rename_i acyclic
      split at passed
      · cases passed
      · rename_i within
        split at passed
        · cases passed
        · rename_i complete
          have within := stray.1 (not_not.1 within)
          have complete := missing.1 (not_not.1 complete)
          exact ⟨acyclic, fun n => ⟨within n, complete n⟩⟩
  · rintro ⟨acyclic, exact⟩
    have within := stray.2 fun n => (exact n).1
    have complete := missing.2 fun n => (exact n).2
    rw [if_neg acyclic, if_neg (not_not.2 within), if_neg (not_not.2 complete)]

end

/-! ### The verdict -/

section

variable {rows : Catalogue}

/-- The check of the slots of a catalogue passes exactly if they are sound. -/
theorem firstSlotFault?_nil_eq_none_iff : firstSlotFault? [] rows = none ↔ rows.SlotsSound :=
  slotsSound_nil.firstSlotFault?_eq_none_iff

/-- A catalogue without fault is a consistent one. -/
theorem firstFault?_eq_none_iff : rows.firstFault? = none ↔ rows.Consistent := by
  unfold firstFault?
  constructor
  · intro passed
    split at passed
    · cases passed
    · rename_i free
      have h : rows.SlotsSound := firstSlotFault?_nil_eq_none_iff.1 free
      refine ⟨h, fun row hrow => ?_⟩
      exact (h.maskFault?_eq_none_iff hrow).1 (List.findSome?_eq_none_iff.1 passed row hrow)
  · rintro ⟨h, sound⟩
    rw [firstSlotFault?_nil_eq_none_iff.2 h]
    refine List.findSome?_eq_none_iff.2 fun row hrow => ?_
    exact (h.maskFault?_eq_none_iff hrow).2 (sound row hrow)

/-- The fault that the check finds is the first. -/
theorem firstFault?_eq_some_iff {fault : Fault} :
    rows.firstFault? = some fault ↔ rows.FirstFault fault := by
  unfold firstFault?
  cases found : firstSlotFault? [] rows with
  | some other =>
    have unsound : ¬ rows.SlotsSound := by
      rw [← firstSlotFault?_nil_eq_none_iff, found]
      exact Option.some_ne_none other
    have first : other = fault ↔ firstSlotFault? [] rows = some fault := by simp [found]
    rw [Option.some.injEq, first, slotsSound_nil.firstSlotFault?_eq_some_iff]
    constructor
    · rintro ⟨before, row, after, place, sound, wrong⟩
      exact .slot place sound wrong
    · intro first
      cases first with
      | slot place sound wrong => exact ⟨_, _, _, place, sound, wrong⟩
      | row sound => exact absurd sound unsound
  | none =>
    have h : rows.SlotsSound := firstSlotFault?_nil_eq_none_iff.1 found
    constructor
    · intro found
      obtain ⟨before, row, after, place, wrong, passed⟩ := List.findSome?_eq_some_iff.1 found
      have held : ∀ r, r ∈ before ++ row :: after → r ∈ rows := fun r hr => place ▸ hr
      refine .row h place (fun r hr => ?_) ((h.maskFault?_eq_some_iff (held row (by simp))).1 wrong)
      exact (h.maskFault?_eq_none_iff (held r (by simp [hr]))).1 (passed r hr)
    · intro first
      cases first with
      | @slot before after row _ place sound wrong =>
        -- A slot that is not sound would have been found.
        have none := slotsSound_nil.firstSlotFault?_eq_some_iff.2
          ⟨before, row, after, place, sound, wrong⟩
        rw [found] at none
        cases none
      | @row before after row _ _ place sound wrong =>
        have held : ∀ r, r ∈ before ++ row :: after → r ∈ rows := fun r hr => place ▸ hr
        refine List.findSome?_eq_some_iff.2 ⟨before, row, after, place, ?_, fun r hr => ?_⟩
        · exact (h.maskFault?_eq_some_iff (held row (by simp))).2 wrong
        · exact (h.maskFault?_eq_none_iff (held r (by simp [hr]))).2 (sound r hr)

/-- The check accepts the consistent catalogues. -/
theorem verify_eq_ok_iff : rows.verify = .ok () ↔ rows.Consistent := by
  rw [← firstFault?_eq_none_iff, verify]
  cases rows.firstFault? <;> simp

/-- What the check tells of any other catalogue is its first fault. -/
theorem verify_eq_error_iff {fault : Fault} :
    rows.verify = .error fault ↔ rows.FirstFault fault := by
  rw [← firstFault?_eq_some_iff, verify]
  cases rows.firstFault? <;> simp

end

/-- The check accepts exactly the consistent catalogues: all slots are between 1 and 31 and no two
rows share one, no row is above itself, and each mask holds the slot of its row and the slots of
what lies above, and nothing else. Of any other catalogue it tells the first fault: of the first row
whose slot is 0, or past the last, or that of an earlier row; or else of the first row that is above
itself, or whose mask holds slots that are not due, or lacks slots that are. -/
theorem verify_exact (rows : Catalogue) :
    (rows.verify = .ok () ↔ rows.Consistent) ∧
      ∀ fault, rows.verify = .error fault ↔ rows.FirstFault fault :=
  ⟨verify_eq_ok_iff, fun _ => verify_eq_error_iff⟩

/-- A catalogue in which `int` has moved to slot 20. A second row of `int` does not count for what
lies above `signed`, and `intish`, `external` and `heap` have no rows. -/
def relocated (signed : Mask) : Catalogue :=
  [⟨.signed, 10, [.int, .external], signed⟩, ⟨.int, 20, [.intish], 0x100100#32⟩,
    ⟨.int, 21, [.heap], 0x200002#32⟩]

/-- The mask of `signed` holds slot 20, and the usual slots of the two supertypes without rows. The
usual mask of `signed` would hold slot 9, which nothing above it has any longer. -/
theorem relocated_int_is_due :
    (relocated 0x100520#32).Consistent ∧
      (relocated (Prim.mask .signed)).FirstFault (.strayBits .signed 0x200#32) := by
  have accepted : (relocated 0x100520#32).verify = .ok () := by decide +kernel
  have refused : (relocated (Prim.mask .signed)).verify = .error (.strayBits .signed 0x200#32) := by
    decide +kernel
  exact ⟨(verify_exact _).1.1 accepted, ((verify_exact _).2 _).1 refused⟩

end Catalogue

end TypedCalls
