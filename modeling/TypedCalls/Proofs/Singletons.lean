import TypedCalls.Proofs.Verdict

/-!
# Compound types that are built once

An arena keeps the foreign function and the rounding function twice: as compound types at some
positions, and as handles that it remembers. Every addition has to keep the two in step, and a
refusal may not come between them.

Main statement: the foreign function and the rounding function stand at one position at most, an
arena remembers exactly their handles, and once given out, a handle is given out for good.
-/

namespace TypedCalls

namespace Arena

/-- A compound type stands at one position of an arena at most. What the arena remembers is its own
handle of that position, if there is one, and the test for the compound type holds of this handle
only. -/
structure BuiltOnce (a : Arena) (node : Node) (test : Ty → Prop) (known : Option Handle) :
    Prop where
  unique : ∀ p q : Nat, a.nodes[p]? = some node → a.nodes[q]? = some node → p = q
  none_iff : known = none ↔ ∀ p : Nat, a.nodes[p]? ≠ some node
  handle_of_position : ∀ p : Nat, a.nodes[p]? = some node →
    ∃ handle, known = some handle ∧ handle.arena = a.id ∧ handle.index.toNat = p
  test_iff : ∀ t, test t ↔ ∃ handle, known = some handle ∧ t = .compound handle

section

variable {a : Arena} {node : Node} {handle : Handle}

/-! ### One position at most -/

/-- What is built once and not remembered stands nowhere. -/
theorem Reachable.remembered?_eq_none_iff (h : a.Reachable)
    (once : node = .foreign ∨ node = .fround) :
    a.remembered? node = none ↔ ∀ p : Nat, a.nodes[p]? ≠ some node := by
  rw [Option.eq_none_iff_forall_ne_some]
  constructor
  · intro unknown p stands
    exact unknown _ ((h.remembered?_eq_some_iff node _).2 ⟨once, p, stands, rfl⟩)
  · intro nowhere handle old
    obtain ⟨-, p, stands, -⟩ := (h.remembered?_eq_some_iff node handle).1 old
    exact nowhere p stands

/-- What stands in an arena with one more compound type is that one, at the last position, or stood
there before. -/
theorem position_of_withNode {added : Node} {p : Nat}
    (stands : (a.withNode added).nodes[p]? = some node) :
    added = node ∧ p = a.nodes.size ∨ a.nodes[p]? = some node := by
  rw [nodes_withNode, Array.getElem?_push] at stands
  split at stands
  · rename_i last
    exact .inl ⟨Option.some.inj stands, last⟩
  · exact .inr stands

/-- What is built once stands at one position at most. -/
theorem Reachable.position_unique (h : a.Reachable) (once : node = .foreign ∨ node = .fround)
    {p q : Nat} (hp : a.nodes[p]? = some node) (hq : a.nodes[q]? = some node) : p = q := by
  induction h generalizing p q with
  | empty => simp [Arena.empty] at hp
  | @build a added reachable ih =>
    have outcome := outcome_build a added
    generalize a.build added = result at outcome hp hq
    cases outcome with
    | known => exact ih hp hq
    | faulty => exact ih hp hq
    | full => exact ih hp hq
    | added new =>
      -- An addition of the compound type itself finds that it stands nowhere yet.
      have nowhere : added = node → ∀ p : Nat, a.nodes[p]? ≠ some node := by
        rintro rfl
        exact (reachable.remembered?_eq_none_iff once).1 new
      rcases position_of_withNode hp with ⟨same, rfl⟩ | hp
      · rcases position_of_withNode hq with ⟨-, rfl⟩ | hq
        · rfl
        · exact absurd hq (nowhere same q)
      · rcases position_of_withNode hq with ⟨same, rfl⟩ | hq
        · exact absurd hp (nowhere same p)
        · exact ih hp hq

/-! ### What is remembered stays remembered -/

/-- A request leaves what an arena remembers. -/
theorem remembered?_build (old : a.remembered? node = some handle) (request : Node) :
    (a.build request).2.remembered? node = some handle := by
  have outcome := outcome_build a request
  generalize a.build request = result at outcome ⊢
  cases outcome with
  | known => exact old
  | faulty => exact old
  | full => exact old
  | added new =>
    have other : request ≠ node := by
      rintro rfl
      rw [new] at old
      cases old
    cases node with
    | foreign => exact (if_neg other).trans old
    | fround => exact (if_neg other).trans old
    | _ => cases old

/-- Any number of requests leave what an arena remembers. -/
theorem remembered?_buildAll (old : a.remembered? node = some handle) (requests : List Node) :
    (a.buildAll requests).2.remembered? node = some handle := by
  induction requests generalizing a with
  | nil => exact old
  | cons request rest ih => exact ih (remembered?_build old request)

/-- The handle that a request is granted with is remembered for a compound type that is built
once. -/
theorem remembered?_of_granted (once : node = .foreign ∨ node = .fround)
    (granted : (a.build node).1 = .ok handle) :
    (a.build node).2.remembered? node = some handle := by
  have outcome := outcome_build a node
  generalize a.build node = result at outcome granted ⊢
  cases outcome with
  | known old =>
    obtain rfl := Except.ok.inj granted
    exact old
  | faulty => cases granted
  | full => cases granted
  | added =>
    obtain rfl := Except.ok.inj granted
    rw [remembered?_withNode a node once, if_pos rfl]

/-! ### Handles and positions -/

/-- In an arena with at most 2^32 compound types, what is remembered is the handle of the position.
-/
theorem Reachable.remembered?_eq_some_iff_position (h : a.Reachable)
    (small : a.size ≤ UInt32.size) (once : node = .foreign ∨ node = .fround) :
    a.remembered? node = some handle ↔ a.get? handle = some node := by
  rw [h.remembered?_eq_some_iff, get?_eq_some_iff]
  constructor
  · rintro ⟨-, position, stands, rfl⟩
    have taken : position < a.nodes.size := (Array.getElem?_eq_some_iff.1 stands).1
    have number : (UInt32.ofNat position).toNat = position :=
      UInt32.toNat_ofNat_of_lt' (Nat.lt_of_lt_of_le taken small)
    refine ⟨rfl, ?_⟩
    rwa [number]
  · rintro ⟨own, stands⟩
    refine ⟨once, handle.index.toNat, stands, ?_⟩
    rw [UInt32.ofNat_toNat, ← own]

theorem Reachable.builtOnce (h : a.Reachable) (small : a.size ≤ UInt32.size)
    (once : node = .foreign ∨ node = .fround) :
    a.BuiltOnce node (fun t => a.node? t = some node) (a.remembered? node) where
  unique _ _ hp hq := h.position_unique once hp hq
  none_iff := h.remembered?_eq_none_iff once
  handle_of_position p stands := by
    have taken : p < a.nodes.size := (Array.getElem?_eq_some_iff.1 stands).1
    refine ⟨⟨a.id, UInt32.ofNat p⟩, ?_, rfl, ?_⟩
    · exact (h.remembered?_eq_some_iff node _).2 ⟨once, p, stands, rfl⟩
    · exact UInt32.toNat_ofNat_of_lt' (Nat.lt_of_lt_of_le taken small)
  test_iff t := by
    simp only [h.remembered?_eq_some_iff_position small once]
    constructor
    · intro found
      obtain ⟨handle, rfl⟩ := exists_of_node? found
      exact ⟨handle, found, rfl⟩
    · rintro ⟨handle, found, rfl⟩
      exact found

end

/-! ### Handles that are given out for good -/

/-- In an arena that requests can lead to and that holds at most 2^32 compound types, the foreign
function stands at one position at most, and so does the rounding function. The arena remembers no
handle for it exactly if it stands nowhere, and otherwise its own handle of that position, which is
then the only type that leads to it. The handles of the two differ. Once a request for one of them
is granted, every later request for it is granted with the same handle and changes nothing, whatever
comes in between and even if the arena is full. -/
theorem Reachable.foreign_and_fround_built_once {a : Arena} (h : a.Reachable)
    (small : a.size ≤ UInt32.size) :
    (a.BuiltOnce .foreign a.IsForeign a.foreignHandle ∧
      a.BuiltOnce .fround a.IsFround a.froundHandle) ∧
    (∀ foreign fround, a.foreignHandle = some foreign → a.froundHandle = some fround →
      foreign ≠ fround) ∧
    ∀ node, node = .foreign ∨ node = .fround → ∀ handle, (a.build node).1 = .ok handle →
      ∀ requests, let b := ((a.build node).2.buildAll requests).2
        b.build node = (.ok handle, b) ∧
          (b.size ≤ UInt32.size → ∀ t, b.node? t = some node ↔ t = .compound handle) := by
  refine ⟨⟨h.builtOnce small (.inl rfl), h.builtOnce small (.inr rfl)⟩, ?_, ?_⟩
  · rintro handle _ hforeign hfround rfl
    have foreign : a.remembered? .foreign = some handle := hforeign
    have fround : a.remembered? .fround = some handle := hfround
    have stands := (h.remembered?_eq_some_iff_position small (.inl rfl)).1 foreign
    have also := (h.remembered?_eq_some_iff_position small (.inr rfl)).1 fround
    rw [stands] at also
    cases also
  · intro node once handle granted requests b
    have known : b.remembered? node = some handle :=
      remembered?_buildAll (remembered?_of_granted once granted) requests
    refine ⟨build_of_known known, fun few t => ?_⟩
    have reachable : b.Reachable := (h.build node).buildAll requests
    rw [(reachable.builtOnce few once).test_iff, known]
    simp

/-- An arena with room for three compound types. The rounding function takes the second place. -/
def withRoomForOne : Arena :=
  ((Arena.empty 3 (Settings.standard.withLimit 3)).buildAll [.minMax .int .int, .fround]).2

/-- The foreign function takes the last place. It is given out again by the full arena, after
requests that the arena has refused, and its handle is not that of the rounding function. -/
theorem foreign_given_out_again_when_full :
    let requests : List Node := [.minMax .int .int, .fround, .overloads [.compound ⟨3, 2⟩]]
    let full := ((withRoomForOne.build .foreign).2.buildAll requests).2
    withRoomForOne.Reachable ∧ withRoomForOne.size ≤ UInt32.size ∧
      (withRoomForOne.build .foreign).1 = .ok ⟨3, 2⟩ ∧ full.reachedLimit? = some 3 ∧
      full.build .foreign = (.ok ⟨3, 2⟩, full) ∧
      (full.IsForeign (.compound ⟨3, 2⟩) ∧ full.IsFround (.compound ⟨3, 1⟩)) ∧
      (⟨3, 2⟩ : Handle) ≠ ⟨3, 1⟩ := by
  intro requests full
  have reachable : withRoomForOne.Reachable := (Reachable.empty 3 _).buildAll _
  have small : withRoomForOne.size ≤ UInt32.size := by decide
  have granted : (withRoomForOne.build .foreign).1 = .ok ⟨3, 2⟩ := rfl
  have full_reachable : full.Reachable := (reachable.build .foreign).buildAll requests
  have still_small : full.size ≤ UInt32.size := by decide
  obtain ⟨-, -, again⟩ := reachable.foreign_and_fround_built_once small
  obtain ⟨⟨foreign, fround⟩, differ, -⟩ := full_reachable.foreign_and_fround_built_once still_small
  obtain ⟨same, -⟩ := again .foreign (.inl rfl) _ granted requests
  refine ⟨reachable, small, granted, rfl, same, ⟨?_, ?_⟩, differ _ _ rfl rfl⟩
  · exact (foreign.test_iff _).2 ⟨_, rfl, rfl⟩
  · exact (fround.test_iff _).2 ⟨_, rfl, rfl⟩

end Arena

end TypedCalls
