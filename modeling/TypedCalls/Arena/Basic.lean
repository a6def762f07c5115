import TypedCalls.Settings.Basic
import TypedCalls.Ty.Basic

/-!
# Arenas

An arena holds compound types in the order in which they were built. Its identity is part of
each handle that it gives out, so that another arena does not take such a handle for its own.
The foreign function and the rounding function are built once an arena, and it remembers their
handles.
-/

namespace TypedCalls

/-- A store of compound types. -/
structure Arena where
  id : UInt32
  settings : Settings
  nodes : Array Node
  foreignHandle : Option Handle
  froundHandle : Option Handle
  deriving DecidableEq, Repr

namespace Arena

/-- An arena without types. -/
def empty (id : UInt32) (settings : Settings) : Arena :=
  ⟨id, settings, #[], none, none⟩

/-- How many compound types the arena holds. -/
def size (a : Arena) : Nat :=
  a.nodes.size

/-- The compound type behind a handle. The handle of another arena has none here. -/
def get? (a : Arena) (handle : Handle) : Option Node :=
  if handle.arena = a.id then a.nodes[handle.index.toNat]? else none

/-- The compound type behind a type. -/
def node? (a : Arena) : Ty → Option Node
  | .prim _ => none
  | .compound handle => a.get? handle

/-- The signature of a function type. -/
def function? (a : Arena) (t : Ty) : Option Signature :=
  match a.node? t with
  | some (.function signature) => some signature
  | _ => none

/-- The members of a set of overloads. -/
def overloads? (a : Arena) (t : Ty) : Option (List Ty) :=
  match a.node? t with
  | some (.overloads members) => some members
  | _ => none

/-- The bound and the result of a minimum or maximum. -/
def minMax? (a : Arena) (t : Ty) : Option (Prim × Prim) :=
  match a.node? t with
  | some (.minMax bound result) => some (bound, result)
  | _ => none

/-- The length and the signature of a table of functions. -/
def table? (a : Arena) (t : Ty) : Option (UInt32 × Ty) :=
  match a.node? t with
  | some (.table length signature) => some (length, signature)
  | _ => none

/-- The type is the foreign function. -/
def IsForeign (a : Arena) (t : Ty) : Prop :=
  a.node? t = some .foreign

/-- The type is the rounding function. -/
def IsFround (a : Arena) (t : Ty) : Prop :=
  a.node? t = some .fround

/-- The type is a function with one signature. -/
def IsFunction (a : Arena) (t : Ty) : Prop :=
  (a.function? t).isSome

/-- Every compound type that the arena holds can be called. -/
def IsCallable (a : Arena) (t : Ty) : Prop :=
  (a.node? t).isSome

instance (a : Arena) (t : Ty) : Decidable (a.IsForeign t) :=
  inferInstanceAs (Decidable (_ = _))

instance (a : Arena) (t : Ty) : Decidable (a.IsFround t) :=
  inferInstanceAs (Decidable (_ = _))

instance (a : Arena) (t : Ty) : Decidable (a.IsFunction t) :=
  inferInstanceAs (Decidable (_ = _))

instance (a : Arena) (t : Ty) : Decidable (a.IsCallable t) :=
  inferInstanceAs (Decidable (_ = _))

/-- The handle of the next compound type. A position past the last 32-bit word wraps around. -/
def nextHandle (a : Arena) : Handle :=
  ⟨a.id, UInt32.ofNat a.size⟩

/-! ### Look-ups -/

@[simp] theorem node?_prim (a : Arena) (p : Prim) : a.node? (.prim p) = none := rfl

@[simp] theorem node?_compound (a : Arena) (handle : Handle) :
    a.node? (.compound handle) = a.get? handle := rfl

@[simp] theorem size_empty (id : UInt32) (settings : Settings) : (empty id settings).size = 0 :=
  rfl

@[simp] theorem get?_empty (id : UInt32) (settings : Settings) (handle : Handle) :
    (empty id settings).get? handle = none := by
  simp [get?, empty]

theorem get?_eq_some_iff {a : Arena} {handle : Handle} {node : Node} :
    a.get? handle = some node ↔
      handle.arena = a.id ∧ a.nodes[handle.index.toNat]? = some node := by
  simp [get?]

theorem index_lt_size {a : Arena} {handle : Handle} {node : Node}
    (h : a.get? handle = some node) : handle.index.toNat < a.size := by
  obtain ⟨_, h⟩ := get?_eq_some_iff.1 h
  exact (Array.getElem?_eq_some_iff.1 h).1

theorem get?_of_foreign {a : Arena} {handle : Handle} (h : handle.arena ≠ a.id) :
    a.get? handle = none := by
  simp [get?, h]

end Arena

end TypedCalls
