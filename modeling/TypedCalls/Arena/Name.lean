import TypedCalls.Arena.Basic

/-!
# Names of types

The name of a compound type is put together from the names of its parts. A question about a type
follows the handles of its parts wherever they lead, so it may fail, and in an arena with a cycle
it would never end.

Main statements: what the name of each shape is made of.
-/

namespace TypedCalls

/-- Why a question about a type has no answer. -/
inductive QueryError where
  /-- The arena holds no compound type behind the handle. -/
  | notFound (handle : Handle)
  /-- The signature of a table is no function type. -/
  | notFunction (signature : Ty)
  /-- The question leads from part to part without end. -/
  | endless
  deriving DecidableEq, Repr

/-- The wording of an unanswered question. -/
def QueryError.message : QueryError → String
  | notFound handle =>
    s!"TypeArena: compound type {handle.index} not found (handle belongs to another arena)"
  | notFunction signature =>
    s!"TypeArena: {signature.label} is not a function type " ++
      "(function_table must reject non-function signatures)"
  | endless => "TypeArena: a type is a part of itself"

/-- A question that follows handles. It has an answer, fails, or (`none`) does not end. -/
abbrev Query (α : Type) := ExceptT QueryError Option α

/-! ### Outcomes of questions -/

/-- What comes of a question. -/
def Query.outcome {α : Type} : Query α → Except QueryError α
  | some result => result
  | none => .error .endless

namespace Query

variable {α β : Type}

@[simp] theorem outcome_pure (x : α) : outcome (pure x) = .ok x := rfl

@[simp] theorem outcome_throw (e : QueryError) : outcome (throw e : Query α) = .error e := rfl

/-- Two questions in a row have the outcome of the first, or of the second if the first has an
answer. -/
theorem outcome_bind (q : Query α) (f : α → Query β) :
    outcome (q >>= f) = outcome q >>= fun x => outcome (f x) := by
  match q with
  | none => rfl
  | some (.error _) => rfl
  | some (.ok _) => rfl

/-- The outcome of a traversal is the traversal of the outcomes. -/
theorem outcome_mapM (f : α → Query β) (xs : List α) :
    outcome (xs.mapM f) = xs.mapM fun x => outcome (f x) := by
  induction xs with
  | nil => rfl
  | cons x xs ih => simp only [List.mapM_cons, outcome_bind, ih, outcome_pure]; rfl

/-- The outcome of a search is the search among the outcomes. -/
theorem outcome_findSomeM? (f : α → Query (Option β)) (xs : List α) :
    outcome (xs.findSomeM? f) = xs.findSomeM? fun x => outcome (f x) := by
  induction xs with
  | nil => rfl
  | cons x xs ih =>
    rw [List.findSomeM?, List.findSomeM?, outcome_bind]
    refine congrArg _ (funext fun found => ?_)
    cases found with
    | none => exact ih
    | some y => rfl

end Query

/-! ### Written forms -/

/-- The written form of a function. -/
def functionText (params : List String) (result : String) : String :=
  "(" ++ ", ".intercalate params ++ ") -> " ++ result

/-- The written form of a set of overloads. -/
def overloadsText (members : List String) : String :=
  " /\\ ".intercalate members

/-- The written form of a minimum or maximum. -/
def minMaxText (bound result : Prim) : String :=
  functionText [bound.name, bound.name ++ "..."] result.name

/-- The written form of a table of functions. -/
def tableText (length : UInt32) (signature : String) : String :=
  signature ++ "[" ++ toString length ++ "]"

namespace Arena

/-- Put the name of a type together, from the names of its parts in order. -/
def spell (a : Arena) : Ty → Query String
  | .prim p => pure p.name
  | .compound handle =>
    match a.get? handle with
    | none => throw (.notFound handle)
    | some (.function signature) => do
      let params ← signature.params.mapM fun t => a |>.spell t
      let result ← a |>.spell signature.result
      return functionText params result
    | some (.overloads members) => do
      let members ← members.mapM fun t => a |>.spell t
      return overloadsText members
    | some (.minMax bound result) => pure (minMaxText bound result)
    | some .foreign => pure "Function"
    | some .fround => pure "fround"
    | some (.table length signature) => do
      let signature ← a |>.spell signature
      return tableText length signature
partial_fixpoint

/-- The name of a type. -/
def name (a : Arena) (t : Ty) : Except QueryError String :=
  (a.spell t).outcome

/-! ### Names of the shapes -/

section

variable {a : Arena} {handle : Handle}

@[simp] theorem name_prim (a : Arena) (p : Prim) : a.name (.prim p) = .ok p.name := by
  rw [name, spell, Query.outcome_pure]

/-- A compound type that the arena does not hold has no name. -/
theorem name_of_get?_eq_none (h : a.get? handle = none) :
    a.name (.compound handle) = .error (.notFound handle) := by
  rw [name, spell, h]
  rfl

/-- A function is named by its parameters and its result. -/
theorem name_function {s : Signature} (h : a.get? handle = some (.function s)) :
    a.name (.compound handle) = do
      let params ← s.params.mapM a.name
      let result ← a.name s.result
      return functionText params result := by
  rw [name, spell, h]
  simp only [Query.outcome_bind, Query.outcome_mapM, Query.outcome_pure]
  rfl

/-- A set of overloads is named by its members. -/
theorem name_overloads {members : List Ty} (h : a.get? handle = some (.overloads members)) :
    a.name (.compound handle) = overloadsText <$> members.mapM a.name := by
  rw [name, spell, h]
  simp only [Query.outcome_bind, Query.outcome_mapM, Query.outcome_pure]
  rfl

theorem name_minMax {bound result : Prim} (h : a.get? handle = some (.minMax bound result)) :
    a.name (.compound handle) = .ok (minMaxText bound result) := by
  rw [name, spell, h]
  rfl

theorem name_foreign (h : a.get? handle = some .foreign) :
    a.name (.compound handle) = .ok "Function" := by
  rw [name, spell, h]
  rfl

theorem name_fround (h : a.get? handle = some .fround) :
    a.name (.compound handle) = .ok "fround" := by
  rw [name, spell, h]
  rfl

/-- A table is named by its signature and its length. -/
theorem name_table {length : UInt32} {signature : Ty}
    (h : a.get? handle = some (.table length signature)) :
    a.name (.compound handle) = tableText length <$> a.name signature := by
  rw [name, spell, h]
  simp only [Query.outcome_bind, Query.outcome_pure]
  rfl

end

end Arena

end TypedCalls
