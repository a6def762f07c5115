import Mathlib.Data.Set.Card
import TypedCalls.Proofs.Consistency

/-!
# Supertypes in an accepted catalogue

The masks of a catalogue are there so that one bit decides whether a type is below another. If no
type has two rows and all direct supertypes have one, then the check makes sure that this bit is
right: slots tell rows apart, so a bit of a mask stands for one type, and no type is above itself,
so no two types are above each other.

Main statement: in an accepted catalogue of this kind, the masks decide the reflexive and transitive
closure of the listed supertypes, which is a partial order, and a mask has as many bits as its type
has supertypes, and one more.
-/

namespace TypedCalls

/-- The count of the bits of a mask is the number of slots that it holds. -/
theorem Mask.toNat_cpop (mask : Mask) :
    mask.cpop.toNat = {n | mask.getLsbD n = true}.ncard := by
  have below : ∀ n, mask.cpopNatRec n 0 = ((Finset.range n).filter (mask.getLsbD ·)).card := by
    intro n
    induction n with
    | zero => rfl
    | succ n ih =>
      rw [BitVec.cpopNatRec_succ, BitVec.cpopNatRec_eq, ih, Finset.range_add_one,
        Finset.filter_insert]
      cases mask.getLsbD n with
      | false => simp
      | true => simp [Finset.card_insert_of_notMem]
  have held : {n | mask.getLsbD n = true} = ↑((Finset.range 32).filter (mask.getLsbD ·)) := by
    ext n
    simpa using BitVec.lt_of_getLsbD
  rw [BitVec.toNat_cpop, below, held, Set.ncard_coe_finset]

namespace Catalogue

/-- A row of one type lists another as a direct supertype. -/
def Lists (rows : Catalogue) (p q : Prim) : Prop :=
  ∃ row ∈ rows, row.type = p ∧ q ∈ row.parents

/-- The type of a row and the types that lie above it. -/
def lineage (rows : Catalogue) (row : Row) : Set Prim :=
  insert row.type {p | rows.LiesAbove row p}

/-- No type has two rows, and each direct supertype has one. -/
structure Complete (rows : Catalogue) : Prop where
  distinct : (rows.map Row.type).Nodup
  closed : ∀ row ∈ rows, ∀ p ∈ row.parents, ∃ parent ∈ rows, parent.type = p

section

variable {rows : Catalogue} {row : Row} {p q : Prim}

/-! ### One row a type -/

/-- If no type has two rows, a look-up finds the row of a type. -/
theorem row?_eq_some_iff (distinct : (rows.map Row.type).Nodup) :
    rows.row? p = some row ↔ row ∈ rows ∧ row.type = p :=
  find?_key_eq_some_iff distinct

theorem row?_type (distinct : (rows.map Row.type).Nodup) (hrow : row ∈ rows) :
    rows.row? row.type = some row :=
  (row?_eq_some_iff distinct).2 ⟨hrow, rfl⟩

theorem slotOf_type (distinct : (rows.map Row.type).Nodup) (hrow : row ∈ rows) :
    rows.slotOf row.type = row.slot := by
  rw [slotOf, row?_type distinct hrow]

/-- If no type has two rows, then what the first row of a type lists is what any of its rows
lists. -/
theorem firstLists_iff_lists (distinct : (rows.map Row.type).Nodup) :
    rows.FirstLists p q ↔ rows.Lists p q := by
  simp only [FirstLists, Lists, isFirstRow_iff, row?_eq_some_iff distinct, and_assoc]

theorem lists_type_iff (distinct : (rows.map Row.type).Nodup) (hrow : row ∈ rows) :
    rows.Lists row.type q ↔ q ∈ row.parents := by
  constructor
  · rintro ⟨r, held, same, listed⟩
    have one : r = row := List.inj_on_of_nodup_map distinct held hrow same
    exact one ▸ listed
  · intro listed
    exact ⟨row, hrow, rfl, listed⟩

/-- What lies above a row is what can be reached from its type along listed supertypes. -/
theorem liesAbove_iff_transGen (distinct : (rows.map Row.type).Nodup) (hrow : row ∈ rows) :
    rows.LiesAbove row p ↔ Relation.TransGen rows.Lists row.type p := by
  have steps : rows.FirstLists = rows.Lists := by
    funext p q
    exact propext (firstLists_iff_lists distinct)
  rw [Relation.TransGen.head'_iff, LiesAbove, steps]
  simp only [lists_type_iff distinct hrow]

/-! ### Masks of a consistent catalogue -/

theorem finite_liesAbove (rows : Catalogue) (row : Row) : {p | rows.LiesAbove row p}.Finite :=
  (rows.ancestors row).finite_toSet.subset fun _ above => mem_ancestors_iff_liesAbove.2 above

/-- The walk up from a row finds each type above it once. -/
theorem ncard_liesAbove (rows : Catalogue) (row : Row) :
    {p | rows.LiesAbove row p}.ncard = (rows.ancestors row).length := by
  have found : {p | rows.LiesAbove row p} = ↑(rows.ancestors row).toFinset := by
    ext p
    simp [mem_ancestors_iff_liesAbove]
  rw [found, Set.ncard_coe_finset, List.toFinset_card_of_nodup (nodup_ancestors rows row)]

theorem finite_lineage (rows : Catalogue) (row : Row) : (rows.lineage row).Finite :=
  (finite_liesAbove rows row).insert row.type

/-- No type is above itself, so the type of a row adds one to the types above it. -/
theorem Consistent.ncard_lineage (sound : rows.Consistent) (hrow : row ∈ rows) :
    (rows.lineage row).ncard = 1 + {p | rows.LiesAbove row p}.ncard := by
  have acyclic : row.type ∉ {p | rows.LiesAbove row p} := (sound.sound row hrow).acyclic
  rw [lineage, Set.ncard_insert_of_notMem acyclic (finite_liesAbove rows row), Nat.add_comm]

/-- A mask holds the slots of the type of its row and of the types above it. -/
theorem Consistent.getLsbD_mask (sound : rows.Consistent) (distinct : (rows.map Row.type).Nodup)
    (hrow : row ∈ rows) (n : Nat) :
    row.mask.getLsbD n = true ↔ ∃ p ∈ rows.lineage row, (rows.slotOf p).toNat = n := by
  rw [(sound.sound row hrow).mask_exact, due_iff, lineage]
  simp only [Set.mem_insert_iff, Set.mem_ofPred_eq, or_and_right, exists_or, exists_eq_left,
    slotOf_type distinct hrow, @eq_comm _ n]

/-- The bits of a mask are counted by the slots that it holds. -/
theorem Consistent.toNat_cpop_mask (sound : rows.Consistent)
    (distinct : (rows.map Row.type).Nodup) (hrow : row ∈ rows) :
    row.mask.cpop.toNat = ((fun p => (rows.slotOf p).toNat) '' rows.lineage row).ncard := by
  rw [Mask.toNat_cpop]
  simp only [sound.getLsbD_mask distinct hrow, Set.image]

/-- Everything above a row has a row of its own. -/
theorem Complete.exists_row (h : rows.Complete) (hrow : row ∈ rows) (above : rows.LiesAbove row p) :
    ∃ r ∈ rows, r.type = p := by
  obtain ⟨q, named, reached⟩ := above
  rcases reached.cases_tail with same | ⟨r, -, owner, first, listed⟩
  · exact h.closed row hrow p (same ▸ named)
  · exact h.closed owner first.mem p listed

/-- One bit of a mask tells whether its type is the same as another or below it. -/
theorem Complete.holds_iff (h : rows.Complete) (sound : rows.Consistent) {a b : Row} (ha : a ∈ rows)
    (hb : b ∈ rows) :
    a.mask.Holds b.slot ↔ a.type = b.type ∨ Relation.TransGen rows.Lists a.type b.type := by
  have inRange : b.slot.toNat < 32 := Nat.lt_succ_of_le (sound.slots.range b hb).2
  rw [Mask.holds_iff inRange, (sound.sound a ha).mask_exact, due_iff,
    ← liesAbove_iff_transGen h.distinct ha]
  constructor
  · rintro (own | ⟨p, above, other⟩)
    · have one : b = a := sound.slots.eq_of_slot hb ha own
      exact .inl (one ▸ rfl)
    · obtain ⟨r, hr, rfl⟩ := h.exists_row ha above
      rw [slotOf_type h.distinct hr] at other
      have one : b = r := sound.slots.eq_of_slot hb hr other
      exact .inr (one ▸ above)
  · rintro (same | above)
    · have one : a = b := List.inj_on_of_nodup_map h.distinct ha hb same
      exact .inl (one ▸ rfl)
    · exact .inr ⟨b.type, above, by rw [slotOf_type h.distinct hb]⟩

/-- A type and the types above it have different slots. -/
theorem Complete.injOn_slotOf (h : rows.Complete) (sound : rows.Consistent) (hrow : row ∈ rows) :
    Set.InjOn (fun p => (rows.slotOf p).toNat) (rows.lineage row) := by
  have held : ∀ p ∈ rows.lineage row, ∃ r ∈ rows, r.type = p := by
    rintro p (rfl | above)
    · exact ⟨row, hrow, rfl⟩
    · exact h.exists_row hrow above
  intro p hp q hq same
  obtain ⟨first, hfirst, rfl⟩ := held p hp
  obtain ⟨second, hsecond, rfl⟩ := held q hq
  change (rows.slotOf first.type).toNat = (rows.slotOf second.type).toNat at same
  rw [slotOf_type h.distinct hfirst, slotOf_type h.distinct hsecond] at same
  rw [sound.slots.eq_of_slot hfirst hsecond same]

/-- A mask has a bit for its type and one for each type above. -/
theorem Complete.toNat_cpop_mask (h : rows.Complete) (sound : rows.Consistent) (hrow : row ∈ rows) :
    row.mask.cpop.toNat = 1 + {p | rows.LiesAbove row p}.ncard := by
  rw [sound.toNat_cpop_mask h.distinct hrow, (h.injOn_slotOf sound hrow).ncard_image,
    sound.ncard_lineage hrow]

end

/-! ### What the masks of an accepted catalogue tell -/

/-- Take a catalogue in which no type has two rows and all listed supertypes have one, and let it be
accepted. A mask holds the slot of another row exactly if the types are the same or the other one is
reached along listed supertypes, in one step or more. As a relation on rows this is reflexive,
transitive and antisymmetric. The mask of a type has one bit more than the type has supertypes. -/
theorem masks_decide_supertypes {rows : Catalogue} (complete : rows.Complete)
    (accepted : rows.verify = .ok ()) :
    (∀ a ∈ rows, ∀ b ∈ rows, a.mask.Holds b.slot ↔
      a.type = b.type ∨ Relation.TransGen rows.Lists a.type b.type) ∧
    (∀ a ∈ rows, a.mask.Holds a.slot) ∧
    (∀ a ∈ rows, ∀ b ∈ rows, ∀ c ∈ rows,
      a.mask.Holds b.slot → b.mask.Holds c.slot → a.mask.Holds c.slot) ∧
    (∀ a ∈ rows, ∀ b ∈ rows, a.mask.Holds b.slot → b.mask.Holds a.slot → a = b) ∧
    ∀ a ∈ rows, a.mask.cpop.toNat = 1 + {p | Relation.TransGen rows.Lists a.type p}.ncard := by
  have sound : rows.Consistent := verify_eq_ok_iff.1 accepted
  refine ⟨fun a ha b hb => complete.holds_iff sound ha hb, ?_, ?_, ?_, ?_⟩
  · intro a ha
    exact (complete.holds_iff sound ha ha).2 (.inl rfl)
  · intro a ha b hb c hc hab hbc
    rw [complete.holds_iff sound ha hb] at hab
    rw [complete.holds_iff sound hb hc] at hbc
    rw [complete.holds_iff sound ha hc]
    rcases hab with same | hab
    · rw [same]
      exact hbc
    · rcases hbc with same | hbc
      · exact .inr (same ▸ hab)
      · exact .inr (hab.trans hbc)
  · intro a ha b hb hab hba
    rw [complete.holds_iff sound ha hb] at hab
    rw [complete.holds_iff sound hb ha] at hba
    have acyclic : ¬ Relation.TransGen rows.Lists a.type a.type := by
      rw [← liesAbove_iff_transGen complete.distinct ha]
      exact (sound.sound a ha).acyclic
    have same : a.type = b.type := by
      rcases hab with same | hab
      · exact same
      · rcases hba with same | hba
        · exact same.symm
        · exact absurd (hab.trans hba) acyclic
    exact List.inj_on_of_nodup_map complete.distinct ha hb same
  · intro a ha
    simp only [← liesAbove_iff_transGen complete.distinct ha]
    exact complete.toNat_cpop_mask sound ha

/-- In the standard catalogue two ways lead up from `fixnum` to `intish`, by `signed` and by
`unsigned`. What lies on both counts once: `fixnum` has five supertypes. -/
theorem standard_masks_decide_supertypes :
    standard.Complete ∧ standard.verify = .ok () ∧
      Relation.TransGen standard.Lists .fixnum .intish ∧
      {p | Relation.TransGen standard.Lists .fixnum p}.ncard = 5 := by
  have complete : standard.Complete := ⟨by decide, by decide⟩
  have fixnum : Row.ofPrim .fixnum ∈ standard := by decide
  have intish : Row.ofPrim .intish ∈ standard := by decide
  obtain ⟨bits, -, -, -, counts⟩ := masks_decide_supertypes complete verify_standard
  refine ⟨complete, verify_standard, ?_, ?_⟩
  · have held : (Row.ofPrim .fixnum).mask.Holds (Row.ofPrim .intish).slot := by decide
    exact ((bits _ fixnum _ intish).1 held).resolve_left (by decide)
  · have count : (Row.ofPrim .fixnum).mask.cpop.toNat = 6 := by decide
    have count : 6 = 1 + {p | Relation.TransGen standard.Lists .fixnum p}.ncard :=
      count.symm.trans (counts _ fixnum)
    omega

end Catalogue

end TypedCalls
