import TypedCalls.Arena.Call

/-!
# Alternatives of a call

A set of overloads can have sets of overloads as members. Its alternatives are the callable
types that are no sets themselves, in the order in which a call tries them.

Main statements: the alternatives of each shape.
-/

namespace TypedCalls

namespace Arena

/-- Lay out the callable types that a call of a type tries, in order: each set of overloads is
replaced by its members. There is no result if that never ends. -/
def alternatives? (a : Arena) : Ty → Option (List Handle)
  | .prim _ => some []
  | .compound handle =>
    match a.get? handle with
    | none => some []
    | some (.overloads members) => do
      let alternatives ← members.mapM fun t => a |>.alternatives? t
      return alternatives.flatten
    | some _ => some [handle]
partial_fixpoint

/-- The callable types that a call of a type tries, in order. -/
def alternatives (a : Arena) (t : Ty) : List Handle :=
  (a.alternatives? t).getD []

/-! ### Alternatives of the shapes -/

section

variable {a : Arena} {handle : Handle}

/-- A value type has no alternative. -/
@[simp] theorem alternatives?_prim (a : Arena) (p : Prim) :
    a.alternatives? (.prim p) = some [] := by
  rw [alternatives?]

theorem alternatives?_of_get?_eq_none (h : a.get? handle = none) :
    a.alternatives? (.compound handle) = some [] := by
  rw [alternatives?, h]

/-- A set of overloads has the alternatives of its members. -/
theorem alternatives?_overloads {members : List Ty}
    (h : a.get? handle = some (.overloads members)) :
    a.alternatives? (.compound handle) =
      (members.mapM a.alternatives?).map List.flatten := by
  rw [alternatives?, h]
  change (members.mapM a.alternatives?).bind (fun found => some found.flatten) = _
  rw [Option.map_eq_bind]
  rfl

/-- A compound type that is no set of overloads is its own only alternative. -/
theorem alternatives?_of_not_overloads {node : Node} (h : a.get? handle = some node)
    (single : ∀ members, node ≠ .overloads members) :
    a.alternatives? (.compound handle) = some [handle] := by
  rw [alternatives?, h]
  cases node with
  | overloads members => exact absurd rfl (single members)
  | _ => rfl

end

end Arena

end TypedCalls
