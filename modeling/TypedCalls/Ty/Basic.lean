import TypedCalls.Prim.Subtype
import TypedCalls.Prim.Boundary

/-!
# Types

A type is a value type or a handle to a compound type that an arena holds. A handle names its
arena and a position in it. Compound types are told apart by their handles alone, and stand
outside the order of value types.

What an arena holds at one position is made of types again, so a position can refer to other
positions, of the same arena if the arena has checked them.

Main statements: being a subtype is a partial order on all types, and holds between a compound
type and another type only if they are the same.
-/

namespace TypedCalls

/-- The name of a compound type: an arena and a position in it. -/
structure Handle where
  arena : UInt32
  index : UInt32
  deriving DecidableEq, Repr

/-- A type. -/
inductive Ty where
  | prim (p : Prim)
  | compound (handle : Handle)
  deriving DecidableEq, Repr

namespace Ty

/-- No type: the answer where nothing fits. -/
def bottom : Ty := prim .bottom

/-- The value type, if it is one. -/
def prim? : Ty → Option Prim
  | prim p => some p
  | compound _ => none

/-- The handle of a compound type. -/
def handle? : Ty → Option Handle
  | prim _ => none
  | compound handle => some handle

/-- A type as diagnostics show it. -/
def label : Ty → String
  | prim p => "Value(" ++ p.identifier ++ ")"
  | compound handle =>
    "Compound(CompoundId \x7b arena: " ++ toString handle.arena ++ ", index: " ++
      toString handle.index ++ " \x7d)"

/-- Value types are ordered as such, and a compound type is a subtype of itself alone. -/
def IsSubtype : Ty → Ty → Prop
  | prim p, prim q => p.IsSubtype q
  | t, u => t = u

instance decidableIsSubtype : (t u : Ty) → Decidable (t.IsSubtype u)
  | prim p, prim q => inferInstanceAs (Decidable (p.IsSubtype q))
  | prim _, compound _ => inferInstanceAs (Decidable (_ = _))
  | compound _, prim _ => inferInstanceAs (Decidable (_ = _))
  | compound _, compound _ => inferInstanceAs (Decidable (_ = _))

/-! ### Tables of value types -/

/-- Apply a table of value types. Compound types are in no table. -/
def mapPrim (table : Prim → Prim) : Ty → Ty
  | prim p => prim (table p)
  | compound _ => bottom

/-- The type is a value type of a list. -/
def IsAmong (ps : List Prim) : Ty → Prop
  | prim p => p ∈ ps
  | compound _ => False

instance decidableIsAmong (ps : List Prim) : (t : Ty) → Decidable (t.IsAmong ps)
  | prim p => inferInstanceAs (Decidable (p ∈ ps))
  | compound _ => inferInstanceAs (Decidable False)

/-- The canonical form of a returned value's type. -/
def returned (t : Ty) : Ty := t.mapPrim Prim.returned

/-- The canonical form of a passed value's type. -/
def passed (t : Ty) : Ty := t.mapPrim Prim.passed

/-- The type of an element read from a typed array view. -/
def loaded (t : Ty) : Ty := t.mapPrim Prim.loaded

/-- The type that an element written to a typed array view may have. -/
def stored (t : Ty) : Ty := t.mapPrim Prim.stored

/-- The width in bytes of an element of a typed array view. -/
def elementSize? (t : Ty) : Option Nat := t.prim?.bind Prim.elementSize?

/-! ### The order of types -/

@[simp] theorem isSubtype_prim (p q : Prim) : (prim p).IsSubtype (prim q) ↔ p.IsSubtype q :=
  Iff.rfl

@[simp] theorem isSubtype_compound (t : Ty) (handle : Handle) :
    t.IsSubtype (compound handle) ↔ t = compound handle := by
  cases t <;> rfl

@[simp] theorem compound_isSubtype (handle : Handle) (t : Ty) :
    (compound handle).IsSubtype t ↔ compound handle = t := by
  cases t <;> rfl

@[simp] theorem isSubtype_refl (t : Ty) : t.IsSubtype t := by
  cases t <;> simp

theorem IsSubtype.trans {t u v : Ty} (htu : t.IsSubtype u) (huv : u.IsSubtype v) :
    t.IsSubtype v := by
  cases u with
  | compound handle => exact (isSubtype_compound t handle).1 htu ▸ huv
  | prim q =>
    cases t with
    | compound handle => simp at htu
    | prim p =>
      cases v with
      | compound handle => simp at huv
      | prim r => exact Prim.IsSubtype.trans htu huv

theorem IsSubtype.antisymm {t u : Ty} (htu : t.IsSubtype u) (hut : u.IsSubtype t) : t = u := by
  cases u with
  | compound handle => exact (isSubtype_compound t handle).1 htu
  | prim q =>
    cases t with
    | compound handle => exact (compound_isSubtype handle (prim q)).1 htu
    | prim p => exact congrArg prim (Prim.IsSubtype.antisymm htu hut)

@[simp] theorem isAmong_prim (ps : List Prim) (p : Prim) : (prim p).IsAmong ps ↔ p ∈ ps :=
  Iff.rfl

@[simp] theorem not_isAmong_compound (ps : List Prim) (handle : Handle) :
    ¬ (compound handle).IsAmong ps :=
  id

end Ty

/-! ### Compound types -/

/-- A declared result type and the declared types of the parameters, in order. -/
structure Signature where
  result : Ty
  params : List Ty
  deriving DecidableEq, Repr

/-- A compound type. -/
inductive Node where
  /-- A function with one signature. -/
  | function (signature : Signature)
  /-- A set of callable types, tried in order. -/
  | overloads (members : List Ty)
  /-- A function of two or more arguments below a bound. -/
  | minMax (bound result : Prim)
  /-- A function from outside, called by what the caller wants. -/
  | foreign
  /-- The function that rounds a number to single precision. -/
  | fround
  /-- A table of functions with one signature. -/
  | table (length : UInt32) (signature : Ty)
  deriving DecidableEq, Repr

/-- The types that a compound type is made of. -/
def Node.parts : Node → List Ty
  | function signature => signature.result :: signature.params
  | overloads members => members
  | table _ signature => [signature]
  | minMax _ _ | foreign | fround => []

end TypedCalls
