import TypedCalls.Proofs.Numbering
import TypedCalls.Proofs.Resolution

/-!
# Isolation of arenas

A handle carries the number of its arena, and every path by which an arena takes a handle compares
that number with its own. A call never does so for what is passed: there a handle of another arena
falls through because it is equal to no declared type and below no value type.

Main statements: what one arena makes of a handle that is not its own, and that in a history of at
most 2^32 arenas the handles of one arena mean nothing to another.
-/

namespace TypedCalls

namespace Arena

variable {a : Arena} {handle : Handle}

/-! ### Look-ups and requests with a handle of another arena -/

/-- No downcast finds anything behind a handle without a compound type. -/
theorem downcasts_eq_none {t : Ty} (missing : a.node? t = none) :
    a.function? t = none ∧ a.overloads? t = none ∧ a.minMax? t = none ∧ a.table? t = none ∧
      ¬ a.IsCallable t ∧ ¬ a.IsForeign t ∧ ¬ a.IsFround t := by
  simp [function?, overloads?, minMax?, table?, IsCallable, IsForeign, IsFround, missing]

/-- A well-formed arena stores no handle of another arena. -/
theorem WellFormed.not_mem_parts_of_foreign (h : a.WellFormed) (foreign : handle.arena ≠ a.id)
    {node : Node} (stored : node ∈ a.nodes) : .compound handle ∉ node.parts := by
  intro part
  obtain ⟨position, bound, rfl⟩ := Array.mem_iff_getElem.1 stored
  have fits := h position _ (Array.getElem?_eq_getElem bound)
  have own : handle.arena = a.id := (fits.earlier handle part).1
  exact foreign own

/-- A compound type with a handle of another arena in any place is refused. -/
theorem build_of_foreign_part (foreign : handle.arena ≠ a.id) {node : Node}
    (part : .compound handle ∈ node.parts) : ∃ e, (a.build node).1 = .error e := by
  have faulty : a.fault? node ≠ none := by
    intro sound
    have fits : a.FitsAt a.size node := fitsAt_of_sound sound
    exact foreign (fits.earlier handle part).1
  obtain ⟨e, fault⟩ := Option.ne_none_iff_exists'.1 faulty
  exact ⟨e, by rw [build_of_fault fault]⟩

/-! ### Calls with a handle of another arena -/

/-- A signature of an arena takes no call that passes a handle of another arena. -/
theorem WellFormed.exactAnswer_of_foreign (h : a.WellFormed) (foreign : handle.arena ≠ a.id)
    {t : Ty} {s : Signature} (held : a.node? t = some (.function s)) {call : Call}
    (passed : .compound handle ∈ call.args) : s.exactAnswer call = .bottom := by
  obtain ⟨function, rfl⟩ := exists_of_node? held
  refine if_neg ?_
  rintro ⟨-, same⟩
  have param : .compound handle ∈ s.params := same ▸ passed
  have part : .compound handle ∈ (Node.function s).parts := List.mem_cons_of_mem s.result param
  exact foreign ((h.fitsAt held).earlier handle part).1

/-- No alternative takes a call that passes a handle of another arena. -/
theorem WellFormed.leafAnswer_of_foreign (h : a.WellFormed) (foreign : handle.arena ≠ a.id)
    {call : Call} (passed : .compound handle ∈ call.args) (leaf : Handle) :
    a.leafAnswer call leaf = .bottom := by
  unfold leafAnswer
  split
  · rename_i s held
    exact h.exactAnswer_of_foreign foreign (t := .compound leaf) held passed
  · split
    · rename_i s held
      exact h.exactAnswer_of_foreign foreign (function?_eq_some_iff.1 held) passed
    · rfl
  · refine if_neg ?_
    rintro ⟨-, -, below⟩
    have := below _ passed
    simp at this
  · refine if_neg ?_
    rintro ⟨-, listed⟩
    have := listed _ passed
    simp at this
  · refine if_neg ?_
    rintro ⟨-, below⟩
    have := below _ passed
    simp at this
  · rfl
  · rfl

/-- A call that passes a handle of another arena is not accepted by anything that the arena
knows. -/
theorem WellFormed.answer_of_foreign (h : a.WellFormed) (foreign : handle.arena ≠ a.id)
    {callee : Ty} (known : a.Knows callee) {call : Call} (passed : .compound handle ∈ call.args) :
    a.answer callee call = .ok .bottom := by
  rw [h.answer_eq_firstAccepted known]
  refine congrArg Except.ok (firstAccepted_eq_bottom_iff.2 ?_)
  intro t ht
  obtain ⟨leaf, -, rfl⟩ := List.mem_map.1 ht
  exact h.leafAnswer_of_foreign foreign passed leaf

end Arena

namespace Pool

/-! ### Handles of one arena in another -/

/-- In a history that makes at most 2^32 arenas, in whatever order they are made and asked, a
handle that one of them has given out means nothing to another. The other arena finds nothing behind
it, refuses every compound type that it is a part of, and has it in none of its own. It is neither
equal to a handle of the other arena nor above or below it, and a call that passes it is answered
with `bottom` by every callee of the other arena. -/
theorem isolated {events : List Event} (few : (empty.applyAll events).arenas.size ≤ UInt32.size)
    {i j : Nat} (apart : i ≠ j) {handle : Handle} (issued : Issued events i handle) {b : Arena}
    (other : (empty.applyAll events).arenas[j]? = some b) :
    (b.node? (.compound handle) = none ∧ b.function? (.compound handle) = none ∧
      b.overloads? (.compound handle) = none ∧ b.minMax? (.compound handle) = none ∧
      b.table? (.compound handle) = none ∧ ¬ b.IsCallable (.compound handle) ∧
      ¬ b.IsForeign (.compound handle) ∧ ¬ b.IsFround (.compound handle)) ∧
    (∀ node, .compound handle ∈ node.parts → ∃ e, (b.build node).1 = .error e) ∧
    (∀ node ∈ b.nodes, .compound handle ∉ node.parts) ∧
    (∀ own, Issued events j own → Ty.compound handle ≠ .compound own ∧
      ¬ (Ty.compound handle).IsSubtype (.compound own) ∧
      ¬ (Ty.compound own).IsSubtype (.compound handle)) ∧
    ∀ callee call, (b.get? callee).isSome → .compound handle ∈ call.args →
      b.answer (.compound callee) call = .ok .bottom := by
  obtain ⟨number, hi⟩ := issued.arena_eq
  obtain ⟨own_number, reachable⟩ := (numbered_empty.applyAll events).held j b other
  have wf : b.WellFormed := reachable.wellFormed
  have hj : j < (empty.applyAll events).arenas.size := (Array.getElem?_eq_some_iff.1 other).1
  have numbers : UInt32.ofNat i ≠ UInt32.ofNat j :=
    ofNat_ne_ofNat (by omega) (by omega) apart
  have foreign : handle.arena ≠ b.id := by
    rw [number, own_number]
    exact numbers
  have missing : b.node? (.compound handle) = none := Arena.get?_of_foreign foreign
  refine ⟨⟨missing, Arena.downcasts_eq_none missing⟩, ?_, ?_, ?_, ?_⟩
  · intro node part
    exact Arena.build_of_foreign_part foreign part
  · intro node stored
    exact wf.not_mem_parts_of_foreign foreign stored
  · intro own hown
    have differ : handle ≠ own := by
      rintro rfl
      exact numbers (number.symm.trans hown.arena_eq.1)
    simp [differ, differ.symm]
  · intro callee call held passed
    have known : b.Knows (.compound callee) := held
    exact wf.answer_of_foreign foreign known passed

/-- Two arenas with a compound type at position 0 each: the second does not take the handle of the
first for its own. -/
theorem isolated_at_shared_position :
    let events : List Event := [.newArena .standard, .newArena .standard,
      .build 0 (.minMax .int .int), .build 1 .fround, .build 1 (.overloads [.compound ⟨0, 0⟩])]
    (empty.applyAll events).arenas.size ≤ UInt32.size ∧ Issued events 0 ⟨0, 0⟩ ∧
      ∃ b, (empty.applyAll events).arenas[1]? = some b ∧ b.size = 1 ∧
        b.node? (.compound ⟨0, 0⟩) = none ∧
        (∃ e, (b.build (.overloads [.compound ⟨0, 0⟩])).1 = .error e) ∧
        b.answer (.compound ⟨1, 0⟩) ⟨.prim .float, [.compound ⟨0, 0⟩]⟩ = .ok .bottom := by
  intro events
  have few : (empty.applyAll events).arenas.size ≤ UInt32.size := by decide
  have issued : Issued events 0 ⟨0, 0⟩ :=
    ⟨[.newArena .standard, .newArena .standard], .minMax .int .int,
      [.build 1 .fround, .build 1 (.overloads [.compound ⟨0, 0⟩])], rfl, rfl⟩
  refine ⟨few, issued, _, rfl, rfl, ?_⟩
  obtain ⟨lookups, requests, -, -, calls⟩ :=
    isolated few (i := 0) (j := 1) (by decide) issued rfl
  exact ⟨lookups.1, requests _ List.mem_cons_self, calls _ _ rfl List.mem_cons_self⟩

end Pool

end TypedCalls
