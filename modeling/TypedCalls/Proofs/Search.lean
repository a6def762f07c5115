import Mathlib.Algebra.Group.Nat.Defs
import TypedCalls.Proofs.Consistency

/-!
# The search for supertypes

What lies above a row is searched for with a list of types that are still to be looked at. A turn of
the search takes the last of them. A type that has been found before is dropped. Any other is found,
and its direct supertypes are added to the list, which may grow by this from turn to turn. Direct
supertypes may run in circles, name a type more than once, or name one that has no row.

What keeps the search from going on for ever is that a type is found only once, so its direct
supertypes are added only once, and that each turn takes one entry away.

Main statements: no search goes on for ever, and a search from the direct supertypes of a row finds
what can be reached from them, each type once, after one turn for each of them and for each direct
supertype of a find. If the slots have passed their check, a mask has a bit for each find.
-/

namespace TypedCalls

namespace Prim

/-- A search on its way: what has been found, and what is still to be looked at, the last first. -/
structure Search where
  found : List Prim
  pending : List Prim
  deriving DecidableEq, Repr

namespace Search

/-- The search after its next turn, if anything is left to look at. -/
def turn? (next : Prim → List Prim) (s : Search) : Option Search :=
  s.pending.getLast?.map fun p =>
    if p ∈ s.found then
      { s with pending := s.pending.dropLast }
    else
      ⟨s.found ++ [p], s.pending.dropLast ++ next p⟩

/-- A search stops after so many turns, with these finds. -/
inductive Stops (next : Prim → List Prim) : Search → Nat → List Prim → Prop where
  | idle {s : Search} : s.turn? next = none → Stops next s 0 s.found
  | turn {s t : Search} {turns : Nat} {found : List Prim} :
      s.turn? next = some t → Stops next t turns found → Stops next s (turns + 1) found

/-- How many turns a search can take at most: one for each entry of its list, and one for each
direct supertype of a type that has not been found. -/
def bound (next : Prim → List Prim) (s : Search) : Nat :=
  s.pending.length + unexplored next s.found

section

variable {next : Prim → List Prim} {s t : Search} {turns : Nat} {listed found : List Prim}

/-! ### One turn -/

theorem turn?_eq_none_iff : s.turn? next = none ↔ s.pending = [] := by
  rw [turn?, Option.map_eq_none_iff, List.getLast?_eq_none_iff]

/-- A turn drops the last entry, or finds it and adds its direct supertypes. -/
theorem turn?_eq_some (h : s.turn? next = some t) :
    ∃ rest p, s.pending = rest ++ [p] ∧
      (p ∈ s.found ∧ t = ⟨s.found, rest⟩ ∨
        p ∉ s.found ∧ t = ⟨s.found ++ [p], rest ++ next p⟩) := by
  obtain ⟨p, last, rfl⟩ := Option.map_eq_some_iff.1 h
  have split : s.pending = s.pending.dropLast ++ [p] :=
    (List.dropLast_append_getLast? p last).symm
  refine ⟨s.pending.dropLast, p, split, ?_⟩
  by_cases seen : p ∈ s.found
  · exact .inl ⟨seen, if_pos seen⟩
  · exact .inr ⟨seen, if_neg seen⟩

/-- A turn leaves what the walk from here collects as it is. -/
theorem walk_eq_of_turn? (h : s.turn? next = some t) :
    walk next s.found s.pending.reverse = walk next t.found t.pending.reverse := by
  obtain ⟨rest, p, split, ⟨seen, rfl⟩ | ⟨fresh, rfl⟩⟩ := turn?_eq_some h
  · rw [split, List.reverse_concat, walk, if_pos seen]
  · rw [split, List.reverse_concat, walk, if_neg fresh, List.reverse_append]

/-- A turn uses up one of the turns that can be taken. -/
theorem bound_of_turn? (h : s.turn? next = some t) : t.bound next + 1 = s.bound next := by
  obtain ⟨rest, p, split, ⟨-, rfl⟩ | ⟨fresh, rfl⟩⟩ := turn?_eq_some h
  · simp only [bound, split, List.length_append, List.length_singleton]
    omega
  · have settled := unexplored_append next fresh
    simp only [bound, split, List.length_append, List.length_singleton]
    omega

/-- A turn takes one entry, and what it adds are the direct supertypes of the new find. -/
theorem pending_of_turn? (h : s.turn? next = some t) :
    t.pending.length + 1 + (s.found.flatMap next).length =
      s.pending.length + (t.found.flatMap next).length := by
  obtain ⟨rest, p, split, ⟨-, rfl⟩ | ⟨-, rfl⟩⟩ := turn?_eq_some h
  · simp [split]
  · simp only [split, List.flatMap_append, List.flatMap_singleton, List.length_append,
      List.length_singleton]
    omega

/-! ### Whole searches -/

/-- No search goes on for ever. -/
theorem wellFounded_turn (next : Prim → List Prim) :
    WellFounded fun t s : Search => s.turn? next = some t := by
  refine Subrelation.wf ?_ (measure (bound next)).wf
  intro t s h
  have spent := bound_of_turn? h
  exact Nat.lt_of_succ_le (Nat.le_of_eq spent)

/-- Each search stops at some time. -/
theorem exists_stops (next : Prim → List Prim) (s : Search) :
    ∃ turns found, Stops next s turns found := by
  -- The induction is on the turns that can follow, of which there is no endless sequence.
  induction s using (wellFounded_turn next).induction with
  | _ s ih =>
    cases h : s.turn? next with
    | none => exact ⟨0, s.found, .idle h⟩
    | some t =>
      obtain ⟨turns, found, stops⟩ := ih t h
      exact ⟨turns + 1, found, .turn h stops⟩

/-- A search stops with what the walk collects. -/
theorem Stops.eq_walk (h : Stops next s turns found) :
    found = walk next s.found s.pending.reverse := by
  induction h with
  | idle idle => rw [turn?_eq_none_iff.1 idle, List.reverse_nil, walk]
  | turn step _ ih => rw [ih, walk_eq_of_turn? step]

/-- A search takes a turn for each entry that its list starts with, and for each direct supertype of
what it finds on the way. -/
theorem Stops.turns_add (h : Stops next s turns found) :
    turns + (s.found.flatMap next).length = s.pending.length + (found.flatMap next).length := by
  induction h with
  | idle idle => rw [turn?_eq_none_iff.1 idle, List.length_nil]
  | turn step _ ih =>
    have := pending_of_turn? step
    omega

/-- A search from a list of types stops with their closure, and takes a turn for each of them and
for each direct supertype of a find. -/
theorem stops_iff : Stops next ⟨[], listed⟩ turns found ↔
    found = closure next listed ∧ turns = listed.length + (found.flatMap next).length := by
  have outcome : ∀ {turns found}, Stops next ⟨[], listed⟩ turns found →
      found = closure next listed ∧ turns = listed.length + (found.flatMap next).length :=
    fun stops => ⟨stops.eq_walk, by simpa using stops.turns_add⟩
  refine ⟨outcome, ?_⟩
  rintro ⟨rfl, rfl⟩
  -- The search stops somehow, and there is only one way to stop.
  obtain ⟨turns, found, stops⟩ := exists_stops next ⟨[], listed⟩
  obtain ⟨rfl, rfl⟩ := outcome stops
  exact stops

end

end Search

end Prim

/-- The set of one slot has the value of its bit, as long as a mask has this bit. -/
theorem Mask.toNat_ofSlot {slot : UInt8} (h : slot.toNat ≤ 31) :
    (ofSlot slot).toNat = 2 ^ slot.toNat := by
  have fits : 2 ^ slot.toNat < 2 ^ 32 := Nat.pow_lt_pow_right (by decide) (Nat.lt_succ_of_le h)
  rw [ofSlot, BitVec.toNat_twoPow, Nat.mod_eq_of_lt fits]

namespace Catalogue

/-- The search for what lies above a row ends, whatever the rows say of direct supertypes: there is
no endless sequence of turns, and the search stops with one list of types, after a turn for each
direct supertype of the row and of the types on the list. The list names no type twice, and it names
exactly the types that some direct supertype of the row leads to in any number of steps, each from a
type to a direct supertype in its first row. If the slots of all rows have passed their check, the
slots of the row and of the types on the list are between 1 and 31, and each is a bit of a mask. -/
theorem search_stops_with_supertypes {rows : Catalogue} (passed : firstSlotFault? [] rows = none)
    {row : Row} (hrow : row ∈ rows) :
    (WellFounded fun t s : Prim.Search => s.turn? rows.parentsOf = some t) ∧
    (∀ turns found, Prim.Search.Stops rows.parentsOf ⟨[], row.parents⟩ turns found ↔
      found = rows.ancestors row ∧
        turns = row.parents.length + (found.flatMap rows.parentsOf).length) ∧
    (rows.ancestors row).Nodup ∧
    (∀ p, p ∈ rows.ancestors row ↔ ∃ q ∈ row.parents, Relation.ReflTransGen rows.FirstLists q p) ∧
    ∀ slot ∈ row.slot :: (rows.ancestors row).map rows.slotOf,
      1 ≤ slot.toNat ∧ slot.toNat ≤ 31 ∧ (Mask.ofSlot slot).toNat = 2 ^ slot.toNat := by
  have sound : rows.SlotsSound := firstSlotFault?_nil_eq_none_iff.1 passed
  refine ⟨Prim.Search.wellFounded_turn _, fun turns found => Prim.Search.stops_iff,
    nodup_ancestors rows row, fun _ => mem_ancestors_iff_liesAbove, fun slot held => ?_⟩
  have inRange : 1 ≤ slot.toNat ∧ slot.toNat ≤ 31 := by
    rcases List.mem_cons.1 held with rfl | held
    · exact sound.range row hrow
    · obtain ⟨p, -, rfl⟩ := List.mem_map.1 held
      exact sound.slotOf_range p
  exact ⟨inRange.1, inRange.2, Mask.toNat_ofSlot inRange.2⟩

/-- A catalogue with all that a search may come across. The row of `fixnum` names `signed` twice,
and `unsigned`, which has no row. The row of `signed` names `signed` itself, and `signed` and `int`
are above each other. A second row of `int` names `heap`. -/
def tangled : Catalogue :=
  [⟨.fixnum, 12, [.signed, .unsigned, .signed], 0x1f00#32⟩,
    ⟨.signed, 10, [.int, .signed], 0x700#32⟩, ⟨.int, 9, [.signed, .intish], 0x700#32⟩,
    ⟨.int, 20, [.heap], 0x100002#32⟩]

/-- The search from `fixnum` stops after seven turns with four types. `intish` is one of them and
`heap` is not. `unsigned` has its usual slot. -/
theorem tangled_search_stops :
    firstSlotFault? [] tangled = none ∧ ∃ row ∈ tangled, row.type = .fixnum ∧
      Prim.Search.Stops tangled.parentsOf ⟨[], row.parents⟩ 7 [.signed, .int, .intish, .unsigned] ∧
      (∃ q ∈ row.parents, Relation.ReflTransGen tangled.FirstLists q .intish) ∧
      (¬ ∃ q ∈ row.parents, Relation.ReflTransGen tangled.FirstLists q .heap) ∧
      (Mask.ofSlot (tangled.slotOf .unsigned)).toNat = 2 ^ 11 := by
  have passed : firstSlotFault? [] tangled = none := by decide
  have fixnum : ⟨.fixnum, 12, [.signed, .unsigned, .signed], 0x1f00#32⟩ ∈ tangled := by decide
  have finds : tangled.ancestors ⟨.fixnum, 12, [.signed, .unsigned, .signed], 0x1f00#32⟩ =
      [.signed, .int, .intish, .unsigned] := by decide +kernel
  obtain ⟨-, stops, -, reached, shifts⟩ := search_stops_with_supertypes passed fixnum
  rw [finds] at stops reached shifts
  refine ⟨passed, _, fixnum, rfl, (stops _ _).2 ⟨rfl, rfl⟩, (reached _).1 (by decide),
    fun leads => absurd ((reached _).2 leads) (by decide), ?_⟩
  exact (shifts (tangled.slotOf .unsigned) (by decide)).2.2

end Catalogue

end TypedCalls
