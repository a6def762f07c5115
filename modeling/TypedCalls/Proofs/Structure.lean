import Mathlib.Order.RelClasses
import TypedCalls.Proofs.Request

/-!
# Structure of arenas

A compound type is checked against the arena before it is added, and the arena never changes what
it holds. So the handles in a compound type lead to earlier positions of the same arena, and no
type is a part of itself. This is what a recursion along the parts of a type rests on.

Main statements: every reachable arena is well formed, and induction along the parts of a type in
a well-formed arena.
-/

namespace TypedCalls

namespace Arena

/-- The parts of a compound type fit a position: they stand before it, the members of a set of
overloads can be called, and the signature of a table is a function type. -/
structure FitsAt (a : Arena) (position : Nat) (node : Node) : Prop where
  earlier : ∀ handle, .compound handle ∈ node.parts →
    handle.arena = a.id ∧ handle.index.toNat < position
  callable : ∀ members, node = .overloads members → ∀ t ∈ members, a.IsCallable t
  function : ∀ length signature, node = .table length signature → a.IsFunction signature

/-- Every compound type fits the position where it stands. -/
def WellFormed (a : Arena) : Prop :=
  ∀ position node, a.nodes[position]? = some node → a.FitsAt position node

/-- A type is a value type, or a compound type that the arena holds. -/
def Knows (a : Arena) : Ty → Prop
  | .prim _ => True
  | .compound handle => (a.get? handle).isSome

/-- One type is a part of the compound type behind another. -/
def PartOf (a : Arena) (part whole : Ty) : Prop :=
  ∃ node, a.node? whole = some node ∧ part ∈ node.parts

/-! ### Look-ups in an arena that goes on -/

section

variable {a b : Arena}

/-- What stands behind a type stays there. -/
theorem Extends.node?_eq (h : Extends b a) {t : Ty} {node : Node} (hn : a.node? t = some node) :
    b.node? t = some node := by
  cases t with
  | prim p => cases hn
  | compound handle => exact h.get?_eq hn

/-- What can be called can still be called later. -/
theorem Extends.isCallable (h : Extends b a) {t : Ty} (ht : a.IsCallable t) : b.IsCallable t := by
  obtain ⟨node, hn⟩ := Option.isSome_iff_exists.1 ht
  have later : b.node? t = some node := h.node?_eq hn
  exact Option.isSome_iff_exists.2 ⟨node, later⟩

theorem function?_eq_some_iff {t : Ty} {s : Signature} :
    a.function? t = some s ↔ a.node? t = some (.function s) := by
  unfold function?
  split
  · rename_i signature h
    rw [h, Option.some.injEq, Option.some.injEq, Node.function.injEq]
  · rename_i h
    constructor
    · intro none
      cases none
    · intro found
      exact absurd found (h s)

/-- A function can be called. -/
theorem isCallable_of_isFunction {t : Ty} (h : a.IsFunction t) : a.IsCallable t := by
  obtain ⟨s, hs⟩ := Option.isSome_iff_exists.1 h
  have hn : a.node? t = some (.function s) := function?_eq_some_iff.1 hs
  exact Option.isSome_iff_exists.2 ⟨_, hn⟩

theorem Extends.function?_eq (h : Extends b a) {t : Ty} {s : Signature}
    (hs : a.function? t = some s) : b.function? t = some s := by
  have hn : a.node? t = some (.function s) := function?_eq_some_iff.1 hs
  exact function?_eq_some_iff.2 (h.node?_eq hn)

/-- Only a handle leads to a compound type. -/
theorem exists_of_node? {t : Ty} {node : Node} (h : a.node? t = some node) :
    ∃ handle, t = .compound handle := by
  cases t with
  | prim p => cases h
  | compound handle => exact ⟨handle, rfl⟩

/-- What can be called is a compound type that the arena holds. -/
theorem exists_of_isCallable {t : Ty} (h : a.IsCallable t) :
    ∃ handle node, t = .compound handle ∧ a.get? handle = some node := by
  obtain ⟨node, hn⟩ := Option.isSome_iff_exists.1 h
  obtain ⟨handle, rfl⟩ := exists_of_node? hn
  exact ⟨handle, node, rfl, hn⟩

theorem knows_of_isCallable {t : Ty} (h : a.IsCallable t) : a.Knows t := by
  cases t with
  | prim p => trivial
  | compound handle => exact h

end

/-! ### What a check of the parts ensures -/

section

variable {a : Arena}

/-- A part passes the check of handles exactly if the arena knows it. -/
theorem partFault?_eq_none_iff {t : Ty} : a.partFault? t = none ↔ a.Knows t := by
  cases t with
  | prim p => simp [partFault?, Knows]
  | compound handle =>
    change (if (a.get? handle).isSome then none
      else some (BuildError.unknownHandle handle)) = none ↔ (a.get? handle).isSome
    split
    · rename_i held
      exact iff_of_true rfl held
    · rename_i missing
      exact iff_of_false (Option.some_ne_none _) missing

/-- A part passes the check of a kind exactly if it is of that kind, as long as the kind is one of
types that the arena knows. -/
theorem kindFault?_eq_none_iff {kind : Ty → Prop} [DecidablePred kind]
    {cause : String → BuildError} (knows : ∀ t, kind t → a.Knows t) {t : Ty} :
    a.kindFault? kind cause t = none ↔ kind t := by
  unfold kindFault?
  constructor
  · intro h
    split at h
    · cases h
    · split at h
      · assumption
      · cases h
  · intro fits
    have found : a.partFault? t = none := partFault?_eq_none_iff.2 (knows t fits)
    rw [found]
    exact if_pos fits

theorem memberFault?_eq_none_iff {t : Ty} : a.memberFault? t = none ↔ a.IsCallable t :=
  kindFault?_eq_none_iff fun _ => knows_of_isCallable

theorem signatureFault?_eq_none_iff {t : Ty} : a.signatureFault? t = none ↔ a.IsFunction t :=
  kindFault?_eq_none_iff fun _ hfunction =>
    knows_of_isCallable (isCallable_of_isFunction hfunction)

/-- A compound type without fault fits the next position. -/
theorem fitsAt_of_sound {node : Node} (sound : a.fault? node = none) : a.FitsAt a.size node := by
  have known : ∀ t ∈ node.parts, a.Knows t := by
    cases node with
    | function s =>
      intro t ht
      have found : a.partFault? t = none := List.findSome?_eq_none_iff.1 sound t ht
      exact partFault?_eq_none_iff.1 found
    | overloads members =>
      intro t ht
      have found : a.memberFault? t = none := List.findSome?_eq_none_iff.1 sound t ht
      have callable : a.IsCallable t := memberFault?_eq_none_iff.1 found
      exact knows_of_isCallable callable
    | table length signature =>
      intro t ht
      obtain rfl := List.mem_singleton.1 ht
      have function : a.IsFunction t := signatureFault?_eq_none_iff.1 sound
      exact knows_of_isCallable (isCallable_of_isFunction function)
    | _ =>
      intro t ht
      cases ht
  refine ⟨?_, ?_, ?_⟩
  · intro handle hpart
    obtain ⟨held, hheld⟩ := Option.isSome_iff_exists.1 (known _ hpart)
    exact ⟨(get?_eq_some_iff.1 hheld).1, index_lt_size hheld⟩
  · rintro members rfl t ht
    have found : a.memberFault? t = none := List.findSome?_eq_none_iff.1 sound t ht
    exact memberFault?_eq_none_iff.1 found
  · rintro length signature rfl
    exact signatureFault?_eq_none_iff.1 sound

end

/-! ### Reachable arenas are well formed -/

/-- What fits a position still fits it when the arena goes on. -/
theorem FitsAt.extend {a b : Arena} {position : Nat} {node : Node} (h : a.FitsAt position node)
    (hba : Extends b a) : b.FitsAt position node := by
  refine ⟨?_, ?_, ?_⟩
  · rw [hba.id_eq]
    exact h.earlier
  · intro members hnode t ht
    exact hba.isCallable (h.callable members hnode t ht)
  · intro length signature hnode
    have function : a.IsFunction signature := h.function length signature hnode
    obtain ⟨s, hs⟩ := Option.isSome_iff_exists.1 function
    have later : b.function? signature = some s := hba.function?_eq hs
    exact Option.isSome_iff_exists.2 ⟨s, later⟩

/-- Adding a compound type without fault keeps an arena well formed. -/
theorem WellFormed.withNode {a : Arena} (h : a.WellFormed) {node : Node}
    (sound : a.fault? node = none) : (a.withNode node).WellFormed := by
  intro position stored hstored
  rw [nodes_withNode, Array.getElem?_push] at hstored
  have hba : Extends (a.withNode node) a := extends_withNode a node
  split at hstored
  · rename_i last
    obtain rfl := Option.some.inj hstored
    rw [last]
    exact (fitsAt_of_sound sound).extend hba
  · have fits : a.FitsAt position stored := h position stored hstored
    exact fits.extend hba

/-- An arena that requests can lead to is well formed. -/
theorem Reachable.wellFormed {a : Arena} (h : a.Reachable) : a.WellFormed := by
  refine h.invariant ?_ ?_
  · intro id settings position node hnode
    simp [Arena.empty] at hnode
  · intro a node wf _ sound _
    exact wf.withNode sound

/-! ### Induction along the parts of a type -/

namespace WellFormed

variable {a : Arena}

theorem fitsAt (h : a.WellFormed) {handle : Handle} {node : Node}
    (hn : a.get? handle = some node) : a.FitsAt handle.index.toNat node :=
  h handle.index.toNat node (get?_eq_some_iff.1 hn).2

/-- A well-formed arena knows the parts of what it holds. -/
theorem knows_part (h : a.WellFormed) {handle : Handle} {node : Node}
    (hn : a.get? handle = some node) {t : Ty} (ht : t ∈ node.parts) : a.Knows t := by
  cases t with
  | prim p => trivial
  | compound part =>
    obtain ⟨own, before⟩ := (h.fitsAt hn).earlier part ht
    have bound : part.index.toNat < a.nodes.size := Nat.lt_trans before (index_lt_size hn)
    exact Option.isSome_iff_exists.2
      ⟨_, get?_eq_some_iff.2 ⟨own, Array.getElem?_eq_getElem bound⟩⟩

/-- A property of value types and of handles without a compound type that passes from the parts
to the whole is a property of every type. -/
theorem induction (h : a.WellFormed) {P : Ty → Prop} (prim : ∀ p, P (.prim p))
    (missing : ∀ handle, a.get? handle = none → P (.compound handle))
    (held : ∀ handle node, a.get? handle = some node → (∀ t ∈ node.parts, P t) →
      P (.compound handle)) (t : Ty) : P t := by
  -- The position of a handle carries the induction: parts stand at earlier positions.
  have below : ∀ n, ∀ handle : Handle, handle.index.toNat = n → P (.compound handle) := by
    intro n
    induction n using Nat.strongRecOn with
    | _ n ih =>
      rintro handle rfl
      cases hn : a.get? handle with
      | none => exact missing handle hn
      | some node =>
        refine held handle node hn fun t ht => ?_
        cases t with
        | prim p => exact prim p
        | compound part =>
          have before := ((h.fitsAt hn).earlier part ht).2
          exact ih part.index.toNat before part rfl
  cases t with
  | prim p => exact prim p
  | compound handle => exact below handle.index.toNat handle rfl

/-- A property of value types that passes from the parts to the whole is a property of every type
that the arena knows. -/
theorem induction_known (h : a.WellFormed) {P : Ty → Prop} (prim : ∀ p, P (.prim p))
    (held : ∀ handle node, a.get? handle = some node → (∀ t ∈ node.parts, P t) →
      P (.compound handle)) {t : Ty} (known : a.Knows t) : P t := by
  revert known
  refine h.induction (P := fun t => a.Knows t → P t) ?_ ?_ ?_ t
  · intro p _
    exact prim p
  · intro handle missing known
    rw [Knows, missing] at known
    cases known
  · intro handle node hn ih _
    exact held handle node hn fun t ht => ih t ht (h.knows_part hn ht)

/-- Following parts comes to an end. -/
theorem acc_partOf (h : a.WellFormed) (t : Ty) : Acc a.PartOf t := by
  refine h.induction (P := Acc a.PartOf) ?_ ?_ ?_ t
  · intro p
    refine ⟨_, ?_⟩
    rintro part ⟨node, hn, -⟩
    cases hn
  · intro handle missing
    refine ⟨_, ?_⟩
    rintro part ⟨node, hn, -⟩
    rw [node?_compound, missing] at hn
    cases hn
  · intro handle node hn ih
    refine ⟨_, ?_⟩
    rintro part ⟨stored, hs, hpart⟩
    have same : node = stored := Option.some.inj (hn.symm.trans hs)
    subst same
    exact ih part hpart

/-- No type is a part of itself, directly or through other types. -/
theorem not_transGen_self (h : a.WellFormed) (t : Ty) : ¬ Relation.TransGen a.PartOf t t := by
  intro cycle
  have wf : WellFounded (Relation.TransGen a.PartOf) := (WellFounded.intro h.acc_partOf).transGen
  exact wf.asymmetric t t cycle cycle

end WellFormed

/-! ### What reachable arenas store -/

/-- In an arena that requests can lead to, with whatever parts and refusals on the way, each handle
in a compound type is one of the arena and leads to an earlier position, each member of a set of
overloads is a compound type that the arena holds, and the signature of each table is a function
type that it holds. No type is a part of itself, directly or through other types. -/
theorem Reachable.parts_earlier_and_held {a : Arena} (h : a.Reachable) :
    (∀ (position : Nat) (node : Node), a.nodes[position]? = some node →
      (∀ handle, .compound handle ∈ node.parts →
        handle.arena = a.id ∧ handle.index.toNat < position) ∧
      (∀ members, node = .overloads members →
        ∀ t ∈ members, ∃ handle held, t = .compound handle ∧ a.get? handle = some held) ∧
      (∀ length signature, node = .table length signature →
        ∃ handle s, signature = .compound handle ∧ a.get? handle = some (.function s))) ∧
    ∀ t, ¬ Relation.TransGen a.PartOf t t := by
  refine ⟨?_, h.wellFormed.not_transGen_self⟩
  intro position node hnode
  have fits : a.FitsAt position node := h.wellFormed position node hnode
  refine ⟨fits.earlier, ?_, ?_⟩
  · intro members hmembers t ht
    have callable : a.IsCallable t := fits.callable members hmembers t ht
    exact exists_of_isCallable callable
  · intro length signature htable
    have function : a.IsFunction signature := fits.function length signature htable
    obtain ⟨s, hs⟩ := Option.isSome_iff_exists.1 function
    have held : a.node? signature = some (.function s) := function?_eq_some_iff.1 hs
    obtain ⟨handle, rfl⟩ := exists_of_node? held
    exact ⟨handle, s, rfl, held⟩

/-- A set of overloads with another set among its members stands after all of them. -/
theorem nested_overloads_stand_last :
    sample.Reachable ∧
      sample.nodes[6]? = some (.overloads [.compound ⟨7, 2⟩, .compound ⟨7, 3⟩, .compound ⟨7, 5⟩]) ∧
      (∀ handle, .compound handle ∈ [Ty.compound ⟨7, 2⟩, .compound ⟨7, 3⟩, .compound ⟨7, 5⟩] →
        handle.arena = 7 ∧ handle.index.toNat < 6) ∧
      ¬ Relation.TransGen sample.PartOf (.compound ⟨7, 6⟩) (.compound ⟨7, 6⟩) :=
  ⟨reachable_sample, rfl, (reachable_sample.parts_earlier_and_held.1 6 _ rfl).1,
    reachable_sample.parts_earlier_and_held.2 _⟩

end Arena

end TypedCalls
