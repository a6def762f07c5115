import TypedCalls.Arena.Build

/-!
# What a request does

A request has one of four outcomes: the arena remembers the compound type and gives its handle
again, it finds a fault in the parts, it is full, or it adds the compound type as its last. Only
the last of them changes the arena, so a property of all reachable arenas has to be checked for
the empty ones and for this one step.

Main statements: each request has one of the four outcomes, and the induction on reachable arenas
that follows.
-/

namespace TypedCalls

namespace Arena

/-- The handle that an arena remembers for a compound type that it builds once. -/
def remembered? (a : Arena) : Node → Option Handle
  | .foreign => a.foreignHandle
  | .fround => a.froundHandle
  | .function _ | .overloads _ | .minMax _ _ | .table _ _ => none

/-- The arena with one more compound type, as its last. -/
def withNode (a : Arena) (node : Node) : Arena where
  id := a.id
  settings := a.settings
  nodes := a.nodes.push node
  foreignHandle := if node = .foreign then some a.nextHandle else a.foreignHandle
  froundHandle := if node = .fround then some a.nextHandle else a.froundHandle

@[simp] theorem nodes_withNode (a : Arena) (node : Node) :
    (a.withNode node).nodes = a.nodes.push node := rfl

@[simp] theorem size_withNode (a : Arena) (node : Node) :
    (a.withNode node).size = a.size + 1 :=
  Array.size_push node

/-- What can come of a request: an answer and the arena after it. -/
inductive Outcome (a : Arena) (node : Node) : Except BuildError Handle × Arena → Prop where
  /-- The compound type is there already. -/
  | known {handle : Handle} (old : a.remembered? node = some handle) :
      Outcome a node (.ok handle, a)
  /-- The parts have a fault. -/
  | faulty {e : BuildError} (new : a.remembered? node = none) (fault : a.fault? node = some e) :
      Outcome a node (.error e, a)
  /-- The arena is full. -/
  | full {limit : UInt64} (new : a.remembered? node = none) (sound : a.fault? node = none)
      (reached : a.reachedLimit? = some limit) : Outcome a node (.error (.limitExceeded limit), a)
  /-- The compound type is added. -/
  | added (new : a.remembered? node = none) (sound : a.fault? node = none)
      (room : a.reachedLimit? = none) : Outcome a node (.ok a.nextHandle, a.withNode node)

/-! ### Which outcome a request has -/

section

variable {a : Arena} {node : Node}

/-- A compound type that the arena remembers is not built again. -/
theorem build_of_known {handle : Handle} (old : a.remembered? node = some handle) :
    a.build node = (.ok handle, a) := by
  cases node with
  | foreign =>
    have old : a.foreignHandle = some handle := old
    rw [build, foreign, old, pushOnce_known]
  | fround =>
    have old : a.froundHandle = some handle := old
    rw [build, fround, old, pushOnce_known]
  | _ => cases old

/-- A fault of the parts is reported. -/
theorem build_of_fault {e : BuildError} (fault : a.fault? node = some e) :
    a.build node = (.error e, a) := by
  cases node with
  | foreign => cases fault
  | fround => cases fault
  | _ => simp only [build, pushChecked, fault]

/-- A full arena reports its limit. -/
theorem build_of_full {limit : UInt64} (new : a.remembered? node = none)
    (sound : a.fault? node = none) (reached : a.reachedLimit? = some limit) :
    a.build node = (.error (.limitExceeded limit), a) := by
  cases node with
  | foreign =>
    have new : a.foreignHandle = none := new
    rw [build, foreign, new, pushOnce_of_reachedLimit reached]
  | fround =>
    have new : a.froundHandle = none := new
    rw [build, fround, new, pushOnce_of_reachedLimit reached]
  | _ => simp only [build, pushChecked, sound, push_of_reachedLimit reached]

/-- An arena with room adds the compound type. -/
theorem build_of_room (new : a.remembered? node = none) (sound : a.fault? node = none)
    (room : a.reachedLimit? = none) : a.build node = (.ok a.nextHandle, a.withNode node) := by
  cases node with
  | foreign =>
    have new : a.foreignHandle = none := new
    rw [build, foreign, new, pushOnce_of_room room]
    rfl
  | fround =>
    have new : a.froundHandle = none := new
    rw [build, fround, new, pushOnce_of_room room]
    rfl
  | _ => simp [build, pushChecked, sound, push_of_room room, withNode]

end

/-- Each request has one of the four outcomes. -/
theorem outcome_build (a : Arena) (node : Node) : Outcome a node (a.build node) := by
  cases old : a.remembered? node with
  | some handle =>
    rw [build_of_known old]
    exact .known old
  | none =>
    cases fault : a.fault? node with
    | some e =>
      rw [build_of_fault fault]
      exact .faulty old fault
    | none =>
      cases reached : a.reachedLimit? with
      | some limit =>
        rw [build_of_full old fault reached]
        exact .full old fault reached
      | none =>
        rw [build_of_room old fault reached]
        exact .added old fault reached

/-- A refused request changes nothing. -/
theorem eq_of_refused {a : Arena} {node : Node} {e : BuildError}
    (refused : (a.build node).1 = .error e) : (a.build node).2 = a := by
  have outcome := outcome_build a node
  generalize a.build node = result at outcome refused ⊢
  cases outcome with
  | known => cases refused
  | faulty => rfl
  | full => rfl
  | added => cases refused

/-! ### Requests one after another -/

theorem buildAll_cons (a : Arena) (node : Node) (rest : List Node) :
    a.buildAll (node :: rest) =
      ((a.build node).1 :: ((a.build node).2.buildAll rest).1,
        ((a.build node).2.buildAll rest).2) := rfl

/-- Each request has one answer. -/
theorem length_buildAll (a : Arena) (nodes : List Node) :
    (a.buildAll nodes).1.length = nodes.length := by
  induction nodes generalizing a with
  | nil => rfl
  | cons node rest ih => rw [buildAll_cons, List.length_cons, List.length_cons, ih]

/-- Requests one after another leave the stored types in their places. -/
theorem extends_buildAll (a : Arena) (nodes : List Node) : Extends (a.buildAll nodes).2 a := by
  induction nodes generalizing a with
  | nil => exact .refl a
  | cons node rest ih => exact (ih (a.build node).2).trans (extends_build a node)

/-- An arena does not shrink. -/
theorem Extends.size_le {a b : Arena} (h : Extends b a) : a.size ≤ b.size := by
  have bound : a.nodes.toList.length ≤ b.nodes.toList.length := h.nodes_prefix.length_le
  simpa [size] using bound

/-! ### What all reachable arenas have in common -/

/-- A property of the empty arenas that adding a compound type without fault keeps is a property
of every reachable arena. -/
theorem Reachable.invariant {P : Arena → Prop} (empty : ∀ id settings, P (.empty id settings))
    (step : ∀ a node, P a → a.remembered? node = none → a.fault? node = none →
      a.reachedLimit? = none → P (a.withNode node)) {a : Arena} (h : a.Reachable) : P a := by
  induction h with
  | empty id settings => exact empty id settings
  | @build a node _ ih =>
    have outcome := outcome_build a node
    generalize a.build node = result at outcome ⊢
    cases outcome with
    | known => exact ih
    | faulty => exact ih
    | full => exact ih
    | added new sound room => exact step a node ih new sound room

/-- Requests one after another lead from a reachable arena to a reachable one. -/
theorem Reachable.buildAll {a : Arena} (h : a.Reachable) (nodes : List Node) :
    (a.buildAll nodes).2.Reachable := by
  induction nodes generalizing a with
  | nil => exact h
  | cons node rest ih => exact ih (h.build node)

/-- An arena with one more compound type goes on as the arena before. -/
theorem extends_withNode (a : Arena) (node : Node) : Extends (a.withNode node) a :=
  ⟨rfl, rfl, by simp⟩

/-- What an arena remembers after it has added a compound type: that one's handle, if it is built
once, and what it remembered before. -/
theorem eq_or_remembered?_of_withNode {a : Arena} {added node : Node} {handle : Handle}
    (h : (a.withNode added).remembered? node = some handle) :
    node = added ∧ handle = a.nextHandle ∨ a.remembered? node = some handle := by
  cases node with
  | foreign =>
    change (if added = .foreign then some a.nextHandle else a.foreignHandle) = some handle at h
    split at h
    · rename_i same
      exact .inl ⟨same.symm, (Option.some.inj h).symm⟩
    · exact .inr h
  | fround =>
    change (if added = .fround then some a.nextHandle else a.froundHandle) = some handle at h
    split at h
    · rename_i same
      exact .inl ⟨same.symm, (Option.some.inj h).symm⟩
    · exact .inr h
  | _ => cases h

/-- An arena remembers handles of its own only. -/
theorem Reachable.arena_of_remembered {a : Arena} (h : a.Reachable) :
    ∀ node handle, a.remembered? node = some handle → handle.arena = a.id := by
  refine Reachable.invariant
    (P := fun a => ∀ node handle, a.remembered? node = some handle → handle.arena = a.id) ?_ ?_ h
  · intro id settings node handle old
    cases node <;> cases old
  · intro a added own _ _ _ node handle old
    rcases eq_or_remembered?_of_withNode old with ⟨-, rfl⟩ | old
    · rfl
    · exact own node handle old

/-- The handle that a request is answered with is one of the arena. -/
theorem Reachable.arena_of_build {a : Arena} (h : a.Reachable) {node : Node} {handle : Handle}
    (answered : (a.build node).1 = .ok handle) : handle.arena = a.id := by
  have outcome := outcome_build a node
  generalize a.build node = result at outcome answered
  cases outcome with
  | known old =>
    obtain rfl := Except.ok.inj answered
    exact h.arena_of_remembered node _ old
  | faulty => cases answered
  | full => cases answered
  | added =>
    obtain rfl := Except.ok.inj answered
    rfl

/-! ### An arena with all shapes -/

/-- An arena with a compound type of each shape, and a set of overloads within another. The requests
that name a handle of another arena, or one that was never given out, are refused. -/
def sample : Arena :=
  ((Arena.empty 7 .standard).buildAll
    [.function ⟨.prim .int, [.prim .double]⟩,
      .minMax .double .double,
      .overloads [.compound ⟨8, 0⟩],
      .overloads [.compound ⟨7, 1⟩, .compound ⟨7, 0⟩],
      .table 4 (.compound ⟨7, 0⟩),
      .table 2 (.compound ⟨7, 9⟩),
      .foreign,
      .fround,
      .overloads [.compound ⟨7, 2⟩, .compound ⟨7, 3⟩, .compound ⟨7, 5⟩]]).2

theorem reachable_sample : sample.Reachable :=
  (Reachable.empty 7 .standard).buildAll _

end Arena

end TypedCalls
