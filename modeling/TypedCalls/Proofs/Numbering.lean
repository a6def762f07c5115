import TypedCalls.Pool
import TypedCalls.Proofs.Request

/-!
# Numbering of arenas

A pool gives its arenas the identities 0, 1, 2 and so on, and none of its events changes an
identity. The numbers are 32-bit words, so arenas are told apart by them as long as there are no
more than 2^32 of them.

Main statements: what each event keeps of the numbering, and so does a whole history, and the arenas
of a history that makes at most 2^32 of them have different identities.
-/

namespace TypedCalls

namespace Pool

/-- The arenas of a pool are numbered in the order in which they were made, and each is one that
requests can lead to. -/
structure Numbered (p : Pool) : Prop where
  nextId_eq : p.nextId = UInt32.ofNat p.arenas.size
  held : ∀ (i : Nat) (a : Arena), p.arenas[i]? = some a → a.id = UInt32.ofNat i ∧ a.Reachable

theorem numbered_empty : Numbered empty := by
  refine ⟨rfl, ?_⟩
  intro i a ha
  simp [empty] at ha

/-- A new arena gets the next number. -/
theorem Numbered.newArena {p : Pool} (h : p.Numbered) (settings : Settings) :
    (p.newArena settings).Numbered := by
  constructor
  · simp only [Pool.newArena, h.nextId_eq, Array.size_push, UInt32.ofNat_add]
    rfl
  · intro i a ha
    simp only [Pool.newArena, Array.getElem?_push] at ha
    split at ha
    · rename_i last
      obtain rfl := Option.some.inj ha
      rw [last]
      exact ⟨h.nextId_eq, .empty _ _⟩
    · exact h.held i a ha

/-- A request to an arena leaves the numbers as they are. -/
theorem Numbered.build {p : Pool} (h : p.Numbered) (i : Nat) (node : Node) :
    (p.build i node).2.Numbered := by
  unfold Pool.build
  split
  · exact h
  · rename_i a ha
    obtain ⟨number, reachable⟩ := h.held i a ha
    constructor
    · simpa [setArena] using h.nextId_eq
    · intro j b hb
      simp only [setArena, Array.getElem?_setIfInBounds] at hb
      split at hb
      · rename_i same
        split at hb
        · obtain rfl := Option.some.inj hb
          rw [← same]
          have kept : (a.build node).2.id = a.id := (Arena.extends_build a node).id_eq
          exact ⟨kept.trans number, reachable.build node⟩
        · cases hb
      · exact h.held j b hb

theorem Numbered.apply {p : Pool} (h : p.Numbered) (event : Event) : (p.apply event).Numbered := by
  cases event with
  | newArena settings => exact h.newArena settings
  | build i node => exact h.build i node

/-- A history keeps the numbering. -/
theorem Numbered.applyAll {p : Pool} (h : p.Numbered) (events : List Event) :
    (p.applyAll events).Numbered := by
  induction events generalizing p with
  | nil => exact h
  | cons event events ih => exact ih (h.apply event)

/-! ### How many arenas there are -/

theorem size_build (p : Pool) (i : Nat) (node : Node) :
    (p.build i node).2.arenas.size = p.arenas.size := by
  unfold Pool.build
  split
  · rfl
  · simp [setArena]

/-- No event takes an arena away. -/
theorem size_le_size_apply (p : Pool) (event : Event) :
    p.arenas.size ≤ (p.apply event).arenas.size := by
  cases event with
  | newArena settings => simp [apply, newArena]
  | build i node => exact Nat.le_of_eq (size_build p i node).symm

theorem size_le_size_applyAll (p : Pool) (events : List Event) :
    p.arenas.size ≤ (p.applyAll events).arenas.size := by
  induction events generalizing p with
  | nil => exact Nat.le_refl _
  | cons event events ih => exact Nat.le_trans (size_le_size_apply p event) (ih (p.apply event))

/-- Two numbers have the same 32-bit word if they agree up to multiples of 2^32. -/
theorem ofNat_eq_ofNat_iff {i j : Nat} :
    UInt32.ofNat i = UInt32.ofNat j ↔ i % UInt32.size = j % UInt32.size := by
  rw [← UInt32.toNat_inj, UInt32.toNat_ofNat', UInt32.toNat_ofNat']

/-- The first 2^32 numbers are told apart by their 32-bit words. -/
theorem ofNat_ne_ofNat {i j : Nat} (hi : i < UInt32.size) (hj : j < UInt32.size) (apart : i ≠ j) :
    UInt32.ofNat i ≠ UInt32.ofNat j := by
  rw [ne_eq, ofNat_eq_ofNat_iff, Nat.mod_eq_of_lt hi, Nat.mod_eq_of_lt hj]
  exact apart

/-! ### Handles that a history has given out -/

/-- In a history that starts without arenas, a request to one arena has been answered with a
handle. -/
def Issued (events : List Event) (i : Nat) (handle : Handle) : Prop :=
  ∃ before node after, events = before ++ .build i node :: after ∧
    ((empty.applyAll before).build i node).1 = some (.ok handle)

/-- A handle carries the number of the arena that has given it out. -/
theorem Issued.arena_eq {events : List Event} {i : Nat} {handle : Handle}
    (h : Issued events i handle) :
    handle.arena = UInt32.ofNat i ∧ i < (empty.applyAll events).arenas.size := by
  obtain ⟨before, node, after, rfl, answered⟩ := h
  have numbered := numbered_empty.applyAll before
  unfold Pool.build at answered
  split at answered
  · cases answered
  · rename_i a ha
    have built : (a.build node).1 = .ok handle := Option.some.inj answered
    obtain ⟨number, reachable⟩ := numbered.held i a ha
    constructor
    · have own : handle.arena = a.id := reachable.arena_of_build built
      exact own.trans number
    · have bound : i < (empty.applyAll before).arenas.size :=
        (Array.getElem?_eq_some_iff.1 ha).1
      rw [applyAll_append]
      have grown := size_le_size_applyAll (empty.applyAll before) (.build i node :: after)
      omega

end Pool

end TypedCalls
