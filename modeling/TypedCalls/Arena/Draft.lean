import TypedCalls.Arena.Build

/-!
# Drafts

A function type or a set of overloads that grows part by part, outside of any arena. Finishing a
draft asks an arena for the compound type that it stands for. A part is added to the draft at hand
in its place, or the draft is given up for a longer one.

Main statements: parts come out in the order in which they were added, whichever way they were.
-/

namespace TypedCalls

/-- A compound type that is not finished. -/
inductive Draft where
  | function (signature : Signature)
  | overloads (members : List Ty)
  deriving DecidableEq, Repr

namespace Draft

/-- A function without parameters. -/
def ofResult (result : Ty) : Draft :=
  function ⟨result, []⟩

/-- A set without overloads. -/
def noOverloads : Draft :=
  overloads []

/-- Add a parameter or an overload, as the last. -/
def add : Draft → Ty → Draft
  | function s, t => function { s with params := s.params ++ [t] }
  | overloads members, t => overloads (members ++ [t])

/-- Add several parts in order. -/
def addAll (d : Draft) (ts : List Ty) : Draft :=
  ts.foldl add d

/-- How many parameters or overloads have been added. -/
def size : Draft → Nat
  | function s => s.params.length
  | overloads members => members.length

/-- The compound type of a finished draft. -/
def node : Draft → Node
  | function s => .function s
  | overloads members => .overloads members

/-- Build the compound type in an arena. -/
def finish (d : Draft) (a : Arena) : Except BuildError Handle × Arena :=
  a.build d.node

/-! ### Ways to add a part -/

/-- A part that is added to the draft at hand. -/
inductive Addition where
  /-- The draft grows in its place. -/
  | inPlace (part : Ty)
  /-- The draft is given up for a longer one. -/
  | chained (part : Ty)
  deriving DecidableEq, Repr

/-- The part that is added. -/
def Addition.part : Addition → Ty
  | inPlace t | chained t => t

/-- Add a part to the draft at hand. -/
def Addition.perform : Addition → StateM Draft Unit
  | inPlace t => modify fun d => d.add t
  | chained t => do
    let d ← get
    set (d.add t)

/-- The draft after several additions. -/
def after (d : Draft) (additions : List Addition) : Draft :=
  ((additions.forM Addition.perform).run d).2

/-! ### Order of parts -/

@[simp] theorem addAll_function (s : Signature) (ts : List Ty) :
    (function s).addAll ts = function ⟨s.result, s.params ++ ts⟩ := by
  induction ts generalizing s with
  | nil => simp [addAll]
  | cons t ts ih => simpa [addAll, add] using ih { s with params := s.params ++ [t] }

@[simp] theorem addAll_overloads (members ts : List Ty) :
    (overloads members).addAll ts = overloads (members ++ ts) := by
  induction ts generalizing members with
  | nil => simp [addAll]
  | cons t ts ih => simpa [addAll, add] using ih (members ++ [t])

@[simp] theorem after_nil (d : Draft) : d.after [] = d := rfl

/-- Either way, an addition leads to the draft with the part as its last. -/
@[simp] theorem after_cons (d : Draft) (addition : Addition) (additions : List Addition) :
    d.after (addition :: additions) = (d.add addition.part).after additions := by
  cases addition <;> rfl

/-- The order of parts does not depend on how each was added. -/
theorem after_eq_addAll (d : Draft) (additions : List Addition) :
    d.after additions = d.addAll (additions.map Addition.part) := by
  induction additions generalizing d with
  | nil => rfl
  | cons addition additions ih =>
    rw [after_cons, ih, List.map_cons, addAll, addAll, List.foldl_cons]

/-- A function that was begun with its result has the added parts as parameters. -/
theorem after_ofResult (result : Ty) (additions : List Addition) :
    (ofResult result).after additions = function ⟨result, additions.map Addition.part⟩ := by
  rw [after_eq_addAll, ofResult, addAll_function, List.nil_append]

/-- A set that was begun without overloads has the added parts as members. -/
theorem after_noOverloads (additions : List Addition) :
    noOverloads.after additions = overloads (additions.map Addition.part) := by
  rw [after_eq_addAll, noOverloads, addAll_overloads, List.nil_append]

theorem map_part_inPlace (ts : List Ty) : (ts.map Addition.inPlace).map Addition.part = ts := by
  rw [List.map_map]
  exact List.map_id ts

@[simp] theorem size_add (d : Draft) (t : Ty) : (d.add t).size = d.size + 1 := by
  cases d <;> simp [add, size]

end Draft

namespace Arena

/-- Build a function type in one call. -/
def functionType (a : Arena) (result : Ty) (params : List Ty) : Except BuildError Handle × Arena :=
  ((Draft.ofResult result).after (params.map .inPlace)).finish a

/-- Build a set of overloads in one call. -/
def overloadedType (a : Arena) (members : List Ty) : Except BuildError Handle × Arena :=
  (Draft.noOverloads.after (members.map .inPlace)).finish a

theorem functionType_eq (a : Arena) (result : Ty) (params : List Ty) :
    a.functionType result params = (Draft.function ⟨result, params⟩).finish a := by
  rw [functionType, Draft.after_ofResult, Draft.map_part_inPlace]

theorem overloadedType_eq (a : Arena) (members : List Ty) :
    a.overloadedType members = (Draft.overloads members).finish a := by
  rw [overloadedType, Draft.after_noOverloads, Draft.map_part_inPlace]

end Arena

end TypedCalls
