import TypedCalls.Proofs.Spelling
import TypedCalls.Proofs.Totality

/-!
# Names and structure

The name of a type is put together from the names of its parts, so types that are built alike have
the same name, whatever their handles are. The converse does not hold for all types:
`() -> () -> int[3]` is a table of functions that return a function, but also a function that
returns a table. It holds for the types of first order. These are the value types, functions of
value types, tables of such functions, minima and maxima, the foreign function and the rounding
function, and sets of two or more of these other than value types.

Main statement: two types of first order have the same name exactly if they are alike.
-/

namespace TypedCalls

/-! ### Signatures of value types -/

/-- A signature of value types only. -/
def Signature.IsFirstOrder (s : Signature) : Prop :=
  ∀ t ∈ s.result :: s.params, ∃ p, t = .prim p

theorem Signature.IsFirstOrder.exists_prims {s : Signature} (h : s.IsFirstOrder) :
    ∃ (result : Prim) (params : List Prim), s = ⟨.prim result, params.map .prim⟩ := by
  obtain ⟨result, params⟩ := s
  obtain ⟨p, rfl⟩ := h result List.mem_cons_self
  obtain ⟨ps, values⟩ : ∃ ps, params.Forall₂ (fun t q => t = .prim q) ps :=
    exists_forall₂ fun t ht => h t (List.mem_cons_of_mem _ ht)
  obtain rfl : params = ps.map .prim :=
    List.forall₂_eq_eq_eq ▸ List.forall₂_map_right_iff.2 values
  exact ⟨p, ps, rfl⟩

namespace Arena

/-- Two types have the same structure: they are the same value type, or compound types of the same
shape with the same data, and with parts that have the same structure, in order. -/
inductive Alike (a : Arena) : Ty → Ty → Prop where
  | value (p : Prim) : Alike a (.prim p) (.prim p)
  | function {h k : Handle} {s s' : Signature} (left : a.get? h = some (.function s))
      (right : a.get? k = some (.function s')) (result : Alike a s.result s'.result)
      (params : s.params.Forall₂ (Alike a) s'.params) : Alike a (.compound h) (.compound k)
  | overloads {h k : Handle} {members members' : List Ty}
      (left : a.get? h = some (.overloads members)) (right : a.get? k = some (.overloads members'))
      (members : members.Forall₂ (Alike a) members') : Alike a (.compound h) (.compound k)
  | minMax {h k : Handle} {bound result : Prim} (left : a.get? h = some (.minMax bound result))
      (right : a.get? k = some (.minMax bound result)) : Alike a (.compound h) (.compound k)
  | foreign {h k : Handle} (left : a.get? h = some .foreign) (right : a.get? k = some .foreign) :
      Alike a (.compound h) (.compound k)
  | fround {h k : Handle} (left : a.get? h = some .fround) (right : a.get? k = some .fround) :
      Alike a (.compound h) (.compound k)
  | table {h k : Handle} {length : UInt32} {signature signature' : Ty}
      (left : a.get? h = some (.table length signature))
      (right : a.get? k = some (.table length signature'))
      (signature : Alike a signature signature') : Alike a (.compound h) (.compound k)

/-- A type of first order that is no set of overloads. -/
inductive IsSimple (a : Arena) : Ty → Prop where
  | value (p : Prim) : IsSimple a (.prim p)
  | function {handle : Handle} {s : Signature} (held : a.get? handle = some (.function s))
      (values : s.IsFirstOrder) : IsSimple a (.compound handle)
  | minMax {handle : Handle} {bound result : Prim}
      (held : a.get? handle = some (.minMax bound result)) : IsSimple a (.compound handle)
  | foreign {handle : Handle} (held : a.get? handle = some .foreign) : IsSimple a (.compound handle)
  | fround {handle : Handle} (held : a.get? handle = some .fround) : IsSimple a (.compound handle)
  | table {handle : Handle} {length : UInt32} {signature : Ty} {s : Signature}
      (held : a.get? handle = some (.table length signature))
      (function : a.function? signature = some s) (values : s.IsFirstOrder) :
      IsSimple a (.compound handle)

/-- A type of first order: a simple one, or a set of two or more simple compound types. -/
inductive IsFirstOrder (a : Arena) : Ty → Prop where
  | simple {t : Ty} (simple : a.IsSimple t) : IsFirstOrder a t
  | overloads {handle : Handle} {members : List Ty}
      (held : a.get? handle = some (.overloads members)) (several : 2 ≤ members.length)
      (simple : ∀ t ∈ members, a.IsCallable t ∧ a.IsSimple t) : IsFirstOrder a (.compound handle)

/-- A clause describes a type that is no set of overloads. -/
inductive DescribedBy (a : Arena) : Ty → Clause → Prop where
  | value (p : Prim) : DescribedBy a (.prim p) (.value p)
  | function {handle : Handle} {params : List Prim} {result : Prim}
      (held : a.get? handle = some (.function ⟨.prim result, params.map .prim⟩)) :
      DescribedBy a (.compound handle) (.arrow (.listed params) ⟨result, none⟩)
  | minMax {handle : Handle} {bound result : Prim}
      (held : a.get? handle = some (.minMax bound result)) :
      DescribedBy a (.compound handle) (.arrow (.several bound) ⟨result, none⟩)
  | foreign {handle : Handle} (held : a.get? handle = some .foreign) :
      DescribedBy a (.compound handle) .foreign
  | fround {handle : Handle} (held : a.get? handle = some .fround) :
      DescribedBy a (.compound handle) .fround
  | table {handle signature : Handle} {length : UInt32} {params : List Prim} {result : Prim}
      (held : a.get? handle = some (.table length (.compound signature)))
      (function : a.get? signature = some (.function ⟨.prim result, params.map .prim⟩)) :
      DescribedBy a (.compound handle) (.arrow (.listed params) ⟨result, some length⟩)

/-- Clauses describe a type: one that is no set of overloads by one clause, and a set of two or more
by a clause for each member. -/
inductive DescribedByAll (a : Arena) : Ty → List Clause → Prop where
  | single {t : Ty} {c : Clause} (described : a.DescribedBy t c) : DescribedByAll a t [c]
  | overloads {handle : Handle} {members : List Ty} {cs : List Clause}
      (held : a.get? handle = some (.overloads members)) (several : 2 ≤ cs.length)
      (described : members.Forall₂ a.DescribedBy cs) : DescribedByAll a (.compound handle) cs

variable {a : Arena} {t u : Ty}

/-! ### Types of first order have clauses -/

/-- An arena knows its types of first order. -/
theorem IsFirstOrder.knows (h : a.IsFirstOrder t) : a.Knows t := by
  cases h with
  | simple simple =>
    cases simple with
    | value p => trivial
    | function held | minMax held | foreign held | fround held | table held =>
      exact Option.isSome_of_eq_some held
  | overloads held => exact Option.isSome_of_eq_some held

/-- Two simple compound types make a set of first order. -/
theorem isFirstOrder_pair {handle : Handle} (held : a.get? handle = some (.overloads [t, u]))
    (ht : a.IsCallable t ∧ a.IsSimple t) (hu : a.IsCallable u ∧ a.IsSimple u) :
    a.IsFirstOrder (.compound handle) := by
  refine .overloads held (by simp) ?_
  simp only [List.forall_mem_cons]
  exact ⟨ht, hu, by simp⟩

/-- A simple type has a clause. -/
theorem IsSimple.exists_clause (h : a.IsSimple t) : ∃ c, a.DescribedBy t c := by
  cases h with
  | value p => exact ⟨_, .value p⟩
  | function held values =>
    obtain ⟨result, params, rfl⟩ := values.exists_prims
    exact ⟨_, .function held⟩
  | minMax held => exact ⟨_, .minMax held⟩
  | foreign held => exact ⟨_, .foreign held⟩
  | fround held => exact ⟨_, .fround held⟩
  | table held function values =>
    obtain ⟨result, params, rfl⟩ := values.exists_prims
    have stored : a.node? _ = some (.function _) := function?_eq_some_iff.1 function
    obtain ⟨signature, rfl⟩ := exists_of_node? stored
    exact ⟨_, .table held stored⟩

/-- A type of first order has clauses. -/
theorem IsFirstOrder.exists_clauses (h : a.IsFirstOrder t) : ∃ cs, a.DescribedByAll t cs := by
  cases h with
  | simple simple =>
    obtain ⟨c, described⟩ := simple.exists_clause
    exact ⟨[c], .single described⟩
  | @overloads handle members held several simple =>
    obtain ⟨cs, described⟩ := exists_forall₂ fun t ht => (simple t ht).2.exists_clause
    exact ⟨cs, .overloads held (described.length_eq ▸ several) described⟩

/-! ### Names are made of clauses -/

/-- Names of value types are found one by one. -/
theorem mapM_name_map_prim (a : Arena) (params : List Prim) :
    (params.map .prim).mapM a.name = .ok (params.map Prim.name) := by
  rw [List.mapM_map]
  exact mapM_eq_pure_map fun p _ => name_prim a p

/-- The name of a type is its written clause. -/
theorem DescribedBy.name_eq {c : Clause} (h : a.DescribedBy t c) : a.name t = .ok c.text := by
  cases h with
  | value p => exact name_prim a p
  | function held =>
    rw [name_function held, mapM_name_map_prim, name_prim]
    rfl
  | minMax held => exact name_minMax held
  | foreign held => exact name_foreign held
  | fround held => exact name_fround held
  | table held function =>
    rw [name_table held, name_function function, mapM_name_map_prim, name_prim]
    exact congrArg Except.ok (tableText_functionText ..)

/-- The name of a type is its clauses with separators between them. -/
theorem DescribedByAll.name_eq {cs : List Clause} (h : a.DescribedByAll t cs) :
    a.name t = .ok (overloadsText (cs.map Clause.text)) := by
  cases h with
  | single described =>
    rw [described.name_eq]
    simp [overloadsText]
  | @overloads handle members cs held several described =>
    have named : members.mapM a.name = cs.mapM fun c => pure c.text :=
      mapM_eq_of_forall₂ described fun t _ c described => described.name_eq
    rw [name_overloads held, named, mapM_eq_pure_map fun c _ => rfl]
    rfl

/-! ### Types with the same clauses are alike -/

/-- Lists of the same value types are alike. -/
theorem forall₂_alike_prims (a : Arena) (ps : List Prim) :
    (ps.map Ty.prim).Forall₂ a.Alike (ps.map .prim) := by
  refine List.forall₂_same.2 fun t ht => ?_
  obtain ⟨p, -, rfl⟩ := List.mem_map.1 ht
  exact .value p

/-- Two types that one clause describes are alike. -/
theorem DescribedBy.alike {c : Clause} (h : a.DescribedBy t c) (h' : a.DescribedBy u c) :
    a.Alike t u := by
  cases h with
  | value p =>
    cases h'
    exact .value p
  | function held =>
    cases h' with
    | function also => exact .function held also (.value _) (forall₂_alike_prims a _)
  | minMax held =>
    cases h' with
    | minMax also => exact .minMax held also
  | foreign held =>
    cases h' with
    | foreign also => exact .foreign held also
  | fround held =>
    cases h' with
    | fround also => exact .fround held also
  | table held function =>
    cases h' with
    | table also other =>
      exact .table held also (.function function other (.value _) (forall₂_alike_prims a _))

/-- The members of two sets that the same clauses describe are alike, one by one. -/
theorem forall₂_alike_of_describedBy {members members' : List Ty} {cs : List Clause}
    (h : members.Forall₂ a.DescribedBy cs) (h' : members'.Forall₂ a.DescribedBy cs) :
    members.Forall₂ a.Alike members' := by
  induction h generalizing members' with
  | nil =>
    cases h'
    exact .nil
  | cons described _ ih =>
    cases h' with
    | cons also rest => exact .cons (described.alike also) (ih rest)

/-- Two types that the same clauses describe are alike. -/
theorem DescribedByAll.alike {cs : List Clause} (h : a.DescribedByAll t cs)
    (h' : a.DescribedByAll u cs) : a.Alike t u := by
  cases h with
  | single described =>
    cases h' with
    | single also => exact described.alike also
    | overloads _ several => simp at several
  | overloads held several described =>
    cases h' with
    | single => simp at several
    | overloads also _ others =>
      exact .overloads held also (forall₂_alike_of_describedBy described others)

/-! ### Alike types have the same name -/

/-- A type that a well-formed arena knows has the name of every type that is alike. -/
theorem WellFormed.name_eq_of_alike (h : a.WellFormed) (known : a.Knows t) :
    ∀ u, a.Alike t u → a.name t = a.name u := by
  refine h.induction_known (P := fun t => ∀ u, a.Alike t u → a.name t = a.name u) ?_ ?_ known
  · intro p u alike
    cases alike
    rfl
  · intro handle node hn parts u alike
    cases alike with
    | function left right result params =>
      obtain rfl := Option.some.inj (hn.symm.trans left)
      rw [name_function left, name_function right, parts _ List.mem_cons_self _ result,
        mapM_eq_of_forall₂ params fun t ht => parts t (List.mem_cons_of_mem _ ht)]
    | overloads left right members =>
      obtain rfl := Option.some.inj (hn.symm.trans left)
      rw [name_overloads left, name_overloads right, mapM_eq_of_forall₂ members parts]
    | minMax left right => rw [name_minMax left, name_minMax right]
    | foreign left right => rw [name_foreign left, name_foreign right]
    | fround left right => rw [name_fround left, name_fround right]
    | table left right signature =>
      obtain rfl := Option.some.inj (hn.symm.trans left)
      rw [name_table left, name_table right, parts _ List.mem_cons_self _ signature]

/-- In an arena that requests can lead to, any two types of first order have names, and the names
are the same exactly if the types have the same structure. -/
theorem Reachable.name_eq_iff_alike (h : a.Reachable) (ht : a.IsFirstOrder t)
    (hu : a.IsFirstOrder u) :
    ∃ text other, a.name t = .ok text ∧ a.name u = .ok other ∧ (text = other ↔ a.Alike t u) := by
  obtain ⟨cs, described⟩ := ht.exists_clauses
  obtain ⟨ds, also⟩ := hu.exists_clauses
  refine ⟨_, _, described.name_eq, also.name_eq, ?_⟩
  constructor
  · intro same
    obtain rfl := Clause.overloadsText_injective same
    exact described.alike also
  · intro alike
    have named : a.name t = a.name u := h.wellFormed.name_eq_of_alike ht.knows u alike
    rw [described.name_eq, also.name_eq] at named
    exact Except.ok.inj named

/-- Two tables of the same length over equal functions that were built apart, the rounding function,
and three sets of it and a table, one of them in the other order. -/
def lookalikes : Arena :=
  ((Arena.empty 7 .standard).buildAll
    [.function ⟨.prim .heap, [.prim .maybeDouble, .prim .int]⟩,
      .function ⟨.prim .heap, [.prim .maybeDouble, .prim .int]⟩,
      .table 10 (.compound ⟨7, 0⟩),
      .table 10 (.compound ⟨7, 1⟩),
      .fround,
      .overloads [.compound ⟨7, 2⟩, .compound ⟨7, 4⟩],
      .overloads [.compound ⟨7, 3⟩, .compound ⟨7, 4⟩],
      .overloads [.compound ⟨7, 4⟩, .compound ⟨7, 3⟩]]).2

/-- Sets that were built apart have the same name, but not if their members are in another order. -/
theorem lookalike_sets_share_name :
    lookalikes.Reachable ∧ lookalikes.IsFirstOrder (.compound ⟨7, 5⟩) ∧
      lookalikes.IsFirstOrder (.compound ⟨7, 6⟩) ∧ lookalikes.IsFirstOrder (.compound ⟨7, 7⟩) ∧
      (∃ text, lookalikes.name (.compound ⟨7, 5⟩) = .ok text ∧
        lookalikes.name (.compound ⟨7, 6⟩) = .ok text) ∧
      ∃ text other, lookalikes.name (.compound ⟨7, 5⟩) = .ok text ∧
        lookalikes.name (.compound ⟨7, 7⟩) = .ok other ∧ text ≠ other := by
  have reachable : lookalikes.Reachable := (Reachable.empty 7 _).buildAll _
  have values : (⟨.prim .heap, [.prim .maybeDouble, .prim .int]⟩ : Signature).IsFirstOrder := by
    simp [Signature.IsFirstOrder]
  have rounding : lookalikes.IsSimple (.compound ⟨7, 4⟩) := .fround rfl
  have table : lookalikes.IsSimple (.compound ⟨7, 2⟩) := .table rfl rfl values
  have twin : lookalikes.IsSimple (.compound ⟨7, 3⟩) := .table rfl rfl values
  have first : lookalikes.IsFirstOrder (.compound ⟨7, 5⟩) :=
    isFirstOrder_pair rfl ⟨rfl, table⟩ ⟨rfl, rounding⟩
  have second : lookalikes.IsFirstOrder (.compound ⟨7, 6⟩) :=
    isFirstOrder_pair rfl ⟨rfl, twin⟩ ⟨rfl, rounding⟩
  have reversed : lookalikes.IsFirstOrder (.compound ⟨7, 7⟩) :=
    isFirstOrder_pair rfl ⟨rfl, rounding⟩ ⟨rfl, twin⟩
  have functions : lookalikes.Alike (.compound ⟨7, 0⟩) (.compound ⟨7, 1⟩) :=
    .function rfl rfl (.value _) (forall₂_alike_prims _ [.maybeDouble, .int])
  have tables : lookalikes.Alike (.compound ⟨7, 2⟩) (.compound ⟨7, 3⟩) :=
    .table rfl rfl functions
  have sets : lookalikes.Alike (.compound ⟨7, 5⟩) (.compound ⟨7, 6⟩) :=
    .overloads rfl rfl (.cons tables (.cons (.fround rfl rfl) .nil))
  have apart : ¬ lookalikes.Alike (.compound ⟨7, 5⟩) (.compound ⟨7, 7⟩) := by
    intro alike
    cases alike with
    | overloads left right members =>
      cases left
      cases right
      -- A table stands beside the rounding function.
      cases members with
      | cons first =>
        cases first with
        | fround left => cases left
        | table _ right => cases right
        | _ left => cases left
    | _ left => cases left
  obtain ⟨text, same, h5, h6, equal⟩ := reachable.name_eq_iff_alike first second
  obtain ⟨_, other, h5', h7, differ⟩ := reachable.name_eq_iff_alike first reversed
  obtain rfl := equal.2 sets
  exact ⟨reachable, first, second, reversed, ⟨text, h5, h6⟩, _, other, h5', h7,
    fun written => apart (differ.1 written)⟩

end Arena

end TypedCalls
