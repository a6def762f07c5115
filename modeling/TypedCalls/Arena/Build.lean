import TypedCalls.Arena.Name

/-!
# Building compound types

An arena is asked for a compound type. It first checks the parts, in order, then whether it may
hold one more type, and only then adds the type as its last. A refused request changes nothing.

The foreign function and the rounding function are built at the first request. Later requests
get the same handle, even from a full arena.

Main statement: a request leaves the stored types in their places, so a handle stays with its
compound type.
-/

namespace TypedCalls

/-- Why a compound type is not built. -/
inductive BuildError where
  /-- A member of a set of overloads cannot be called. -/
  | notCallable (name : String)
  /-- The signature of a table is no function type. -/
  | notFunction (name : String)
  /-- A part is a compound type that the arena does not hold. -/
  | unknownHandle (handle : Handle)
  /-- The arena is full. -/
  | limitExceeded (limit : UInt64)
  /-- The name that a refusal would show cannot be put together. -/
  | broken (error : QueryError)
  deriving DecidableEq, Repr

/-- The wording of a refusal. -/
def BuildError.message : BuildError → String
  | notCallable name => s!"`{name}` is not callable"
  | notFunction name => s!"function table signature must be a function type, found `{name}`"
  | unknownHandle handle => s!"compound type {handle.index} does not belong to this arena"
  | limitExceeded limit => s!"compound type limit of {limit} exceeded"
  | broken error => error.message

namespace Arena

/-! ### Checks of parts -/

/-- Every part is a value type or a compound type of this arena. -/
def partFault? (a : Arena) : Ty → Option BuildError
  | .prim _ => none
  | .compound handle => if (a.get? handle).isSome then none else some (.unknownHandle handle)

/-- A refusal that shows the name of a type. -/
def refusal (a : Arena) (cause : String → BuildError) (t : Ty) : BuildError :=
  match a.name t with
  | .ok name => cause name
  | .error e => .broken e

/-- A part that has to be of some kind is a part of this arena, and is of that kind. -/
def kindFault? (a : Arena) (kind : Ty → Prop) [DecidablePred kind] (cause : String → BuildError)
    (t : Ty) : Option BuildError :=
  match a.partFault? t with
  | some e => some e
  | none => if kind t then none else some (a.refusal cause t)

/-- A member of a set of overloads can be called. -/
def memberFault? (a : Arena) (t : Ty) : Option BuildError :=
  a.kindFault? a.IsCallable .notCallable t

/-- The signature of a table is a function type. -/
def signatureFault? (a : Arena) (t : Ty) : Option BuildError :=
  a.kindFault? a.IsFunction .notFunction t

/-- The first fault of the parts of a compound type. -/
def fault? (a : Arena) : Node → Option BuildError
  | .function signature => (signature.result :: signature.params).findSome? a.partFault?
  | .overloads members => members.findSome? a.memberFault?
  | .table _ signature => a.signatureFault? signature
  | .minMax _ _ | .foreign | .fround => none

/-! ### Adding a type -/

/-- The limit of a full arena. -/
def reachedLimit? (a : Arena) : Option UInt64 :=
  match a.settings.limit with
  | some limit => if limit.toNat ≤ a.size then some limit else none
  | none => none

/-- Add a compound type to an arena that is not full. -/
def push (a : Arena) (node : Node) : Except BuildError Handle × Arena :=
  match a.reachedLimit? with
  | some limit => (.error (.limitExceeded limit), a)
  | none => (.ok a.nextHandle, { a with nodes := a.nodes.push node })

/-- Give the handle that is known, or add a compound type and remember its handle. -/
def pushOnce (a : Arena) (known : Option Handle) (node : Node)
    (remember : Arena → Handle → Arena) : Except BuildError Handle × Arena :=
  match known with
  | some handle => (.ok handle, a)
  | none =>
    match a.push node with
    | (.ok handle, a) => (.ok handle, remember a handle)
    | (.error e, a) => (.error e, a)

/-- The foreign function. -/
def foreign (a : Arena) : Except BuildError Handle × Arena :=
  a.pushOnce a.foreignHandle .foreign fun a handle => { a with foreignHandle := some handle }

/-- The rounding function. -/
def fround (a : Arena) : Except BuildError Handle × Arena :=
  a.pushOnce a.froundHandle .fround fun a handle => { a with froundHandle := some handle }

/-- Add a compound type whose parts have no fault. -/
def pushChecked (a : Arena) (node : Node) : Except BuildError Handle × Arena :=
  match a.fault? node with
  | some e => (.error e, a)
  | none => a.push node

/-- Build a compound type. -/
def build (a : Arena) : Node → Except BuildError Handle × Arena
  | .foreign => a.foreign
  | .fround => a.fround
  | .function signature => a.pushChecked (.function signature)
  | .overloads members => a.pushChecked (.overloads members)
  | .minMax bound result => a.pushChecked (.minMax bound result)
  | .table length signature => a.pushChecked (.table length signature)

/-- Build compound types one after another. The answers come in the same order. -/
def buildAll (a : Arena) : List Node → List (Except BuildError Handle) × Arena
  | [] => ([], a)
  | node :: rest =>
    let (answer, a) := a.build node
    let (answers, a) := a.buildAll rest
    (answer :: answers, a)

/-- The arenas that requests can lead to. -/
inductive Reachable : Arena → Prop where
  | empty (id : UInt32) (settings : Settings) : Reachable (empty id settings)
  | build {a : Arena} (node : Node) : Reachable a → Reachable (a.build node).2

/-! ### What a request keeps -/

/-- A full arena is left as it is. -/
theorem push_of_reachedLimit {a : Arena} {limit : UInt64} (h : a.reachedLimit? = some limit)
    (node : Node) : a.push node = (.error (.limitExceeded limit), a) := by
  simp [push, h]

/-- An arena that is not full gets one more type, as its last. -/
theorem push_of_room {a : Arena} (h : a.reachedLimit? = none) (node : Node) :
    a.push node = (.ok a.nextHandle, { a with nodes := a.nodes.push node }) := by
  simp [push, h]

/-- What is known is not added again. -/
theorem pushOnce_known (a : Arena) (handle : Handle) (node : Node)
    (remember : Arena → Handle → Arena) :
    a.pushOnce (some handle) node remember = (.ok handle, a) := rfl

theorem pushOnce_of_reachedLimit {a : Arena} {limit : UInt64}
    (h : a.reachedLimit? = some limit) (node : Node) (remember : Arena → Handle → Arena) :
    a.pushOnce none node remember = (.error (.limitExceeded limit), a) := by
  simp only [pushOnce, push_of_reachedLimit h]

theorem pushOnce_of_room {a : Arena} (h : a.reachedLimit? = none) (node : Node)
    (remember : Arena → Handle → Arena) :
    a.pushOnce none node remember =
      (.ok a.nextHandle, remember { a with nodes := a.nodes.push node } a.nextHandle) := by
  simp only [pushOnce, push_of_room h]

/-- An arena without a limit always has room. -/
theorem reachedLimit?_of_unlimited {a : Arena} (h : a.settings.limit = none) :
    a.reachedLimit? = none := by
  simp [reachedLimit?, h]

/-- An arena goes on as another: it has the same identity and settings, and its types come
first. -/
structure Extends (b a : Arena) : Prop where
  id_eq : b.id = a.id
  settings_eq : b.settings = a.settings
  nodes_prefix : a.nodes.toList <+: b.nodes.toList

namespace Extends

protected theorem refl (a : Arena) : Extends a a :=
  ⟨rfl, rfl, List.prefix_refl _⟩

protected theorem trans {a b c : Arena} (hcb : Extends c b) (hba : Extends b a) : Extends c a :=
  ⟨hcb.id_eq.trans hba.id_eq, hcb.settings_eq.trans hba.settings_eq,
    hba.nodes_prefix.trans hcb.nodes_prefix⟩

/-- A handle stays with its compound type. -/
theorem get?_eq {a b : Arena} (h : Extends b a) {handle : Handle} {node : Node}
    (hn : a.get? handle = some node) : b.get? handle = some node := by
  obtain ⟨own, stored⟩ := get?_eq_some_iff.1 hn
  obtain ⟨later, hb⟩ := h.nodes_prefix
  refine get?_eq_some_iff.2 ⟨own.trans h.id_eq.symm, ?_⟩
  obtain ⟨bound, _⟩ := Array.getElem?_eq_some_iff.1 stored
  rw [← Array.getElem?_toList] at stored ⊢
  rw [← hb, List.getElem?_append_left (by simpa using bound), stored]

end Extends

theorem extends_push (a : Arena) (node : Node) : Extends (a.push node).2 a := by
  unfold push
  split
  · exact .refl a
  · exact ⟨rfl, rfl, by simp⟩

theorem extends_pushChecked (a : Arena) (node : Node) : Extends (a.pushChecked node).2 a := by
  unfold pushChecked
  split
  · exact .refl a
  · exact extends_push a node

theorem extends_pushOnce (a : Arena) (known : Option Handle) (node : Node)
    {remember : Arena → Handle → Arena} (keeps : ∀ b handle, Extends (remember b handle) b) :
    Extends (a.pushOnce known node remember).2 a := by
  have step := extends_push a node
  unfold pushOnce
  split
  · exact .refl a
  · split <;> rename_i h <;> rw [h] at step
    · exact (keeps _ _).trans step
    · exact step

/-- A request, refused or not, leaves the stored types in their places. -/
theorem extends_build (a : Arena) (node : Node) : Extends (a.build node).2 a := by
  cases node with
  | foreign => exact extends_pushOnce a _ _ fun _ _ => ⟨rfl, rfl, List.prefix_refl _⟩
  | fround => exact extends_pushOnce a _ _ fun _ _ => ⟨rfl, rfl, List.prefix_refl _⟩
  | _ => exact extends_pushChecked a _

end Arena

end TypedCalls
