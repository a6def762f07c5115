import TypedCalls.Proofs.Matching

/-!
# Range of results

A call comes back with what the caller wanted, or with `bottom`. The one exception is the rounding
function, which returns a float whatever is wanted, and it shows through any number of sets of
overloads that have it among their members.

Main statements: the alternatives of a type are what it offers through sets of overloads, and a call
returns `bottom`, the wanted type, or a float from the rounding function.
-/

namespace TypedCalls

namespace Arena

/-- A type is offered by itself, and by each set of overloads with a member that offers it. -/
inductive OfferedBy (a : Arena) (t : Ty) : Ty → Prop where
  /-- The type itself. -/
  | self : OfferedBy a t t
  /-- A set of overloads. -/
  | member {handle : Handle} {members : List Ty} {u : Ty}
      (set : a.get? handle = some (.overloads members)) (listed : u ∈ members)
      (offered : OfferedBy a t u) : OfferedBy a t (.compound handle)

variable {a : Arena}

/-! ### Alternatives are what is offered -/

/-- The alternatives of a type are what it offers and what is no set of overloads itself. -/
theorem WellFormed.mem_alternatives_iff (h : a.WellFormed) {leaf : Handle} {t : Ty} :
    leaf ∈ a.alternatives t ↔
      a.OfferedBy (.compound leaf) t ∧
        ∃ node, a.get? leaf = some node ∧ ∀ members, node ≠ .overloads members := by
  constructor
  · refine h.induction (P := fun t => leaf ∈ a.alternatives t → a.OfferedBy (.compound leaf) t ∧
      ∃ node, a.get? leaf = some node ∧ ∀ members, node ≠ .overloads members) ?_ ?_ ?_ t
    · intro p listed
      simp at listed
    · intro handle missing listed
      rw [alternatives, alternatives?_of_get?_eq_none missing] at listed
      cases listed
    · intro handle node hn ih listed
      by_cases set : ∃ members, node = .overloads members
      · obtain ⟨members, rfl⟩ := set
        rw [h.alternatives_overloads hn] at listed
        obtain ⟨u, hu, below⟩ := List.mem_flatMap.1 listed
        obtain ⟨offered, single⟩ := ih u hu below
        exact ⟨.member hn hu offered, single⟩
      · have single : ∀ members, node ≠ .overloads members := fun members same =>
          set ⟨members, same⟩
        rw [alternatives_of_not_overloads hn single] at listed
        obtain rfl := List.mem_singleton.1 listed
        exact ⟨.self, node, hn, single⟩
  · rintro ⟨offered, node, hn, single⟩
    induction offered with
    | self =>
      rw [alternatives_of_not_overloads hn single]
      exact List.mem_cons_self
    | member set listed _ ih =>
      rw [h.alternatives_overloads set]
      exact List.mem_flatMap.2 ⟨_, listed, ih⟩

/-- An alternative that is the rounding function is offered. -/
theorem WellFormed.offeredBy_of_fround (h : a.WellFormed) {leaf : Handle} {t : Ty}
    (listed : leaf ∈ a.alternatives t) (fround : a.get? leaf = some .fround) :
    ∃ u, a.OfferedBy u t ∧ a.IsFround u :=
  ⟨.compound leaf, (h.mem_alternatives_iff.1 listed).1, fround⟩

/-! ### What a call returns -/

/-- A result other than `bottom` is that of an alternative that matches. -/
theorem WellFormed.exists_match_of_answer (h : a.WellFormed) {callee : Ty} (known : a.Knows callee)
    {call : Call} {result : Ty} (answered : a.answer callee call = .ok result)
    (accepted : result ≠ .bottom) :
    ∃ leaf ∈ a.alternatives callee, a.Matches call leaf result := by
  have first := h.answer_eq_firstAccepted known call
  obtain rfl := Except.ok.inj (answered.symm.trans first)
  obtain ⟨leaf, listed, answer⟩ := List.mem_map.1 (firstAccepted_mem accepted)
  exact ⟨leaf, listed, matches_of_leafAnswer_eq answer accepted⟩

/-- In an arena that requests can lead to, a call of a value type or of a compound type that the
arena holds returns `bottom`, the type that is wanted, or a float. A float that is not wanted is
returned for one argument only, at or below floatish, a double that may be absent, signed or
unsigned, and only by a callee that is the rounding function or offers it through sets of overloads.
So the result is a compound type only if that type is wanted. -/
theorem Reachable.result_bottom_wanted_or_float (h : a.Reachable) {callee : Ty}
    (known : a.Knows callee) (call : Call) :
    ∃ result, a.answer callee call = .ok result ∧
      (result = .bottom ∨ result = call.wanted ∨ result = .prim .float) ∧
      (result = .prim .float → call.wanted ≠ .prim .float →
        (∃ t, call.args = [t] ∧ t.IsRoundable) ∧ ∃ u, a.OfferedBy u callee ∧ a.IsFround u) ∧
      ∀ handle, result = .compound handle → call.wanted = .compound handle := by
  have wf : a.WellFormed := h.wellFormed
  have answered := wf.answer_eq_firstAccepted known call
  refine ⟨_, answered, ?_⟩
  generalize firstAccepted ((a.alternatives callee).map (a.leafAnswer call)) = result at answered
  by_cases refused : result = .bottom
  · subst refused
    exact ⟨.inl rfl, nofun, nofun⟩
  obtain ⟨leaf, listed, matched⟩ := wf.exists_match_of_answer known answered refused
  rcases matched.eq_wanted_or_fround with wanted | ⟨rfl, fround, single⟩
  · refine ⟨.inr (.inl wanted), ?_, ?_⟩
    · intro float other
      exact absurd (wanted.symm.trans float) other
    · intro handle compound
      exact wanted.symm.trans compound
  · exact ⟨.inr (.inr rfl), fun _ _ => ⟨single, wf.offeredBy_of_fround listed fround⟩, nofun⟩

/-- A set with another set among its members returns a float where a signed is wanted: the rounding
function is a member too, and the one argument is a double. -/
theorem nested_fround_returns_float :
    sample.Reachable ∧ sample.Knows (.compound ⟨7, 6⟩) ∧
      sample.answer (.compound ⟨7, 6⟩) ⟨.prim .signed, [.prim .double]⟩ = .ok (.prim .float) ∧
      (∃ t, [Ty.prim .double] = [t] ∧ t.IsRoundable) ∧
      ∃ u, sample.OfferedBy u (.compound ⟨7, 6⟩) ∧ sample.IsFround u := by
  have known : sample.Knows (.compound ⟨7, 6⟩) := rfl
  have answer : sample.answer (.compound ⟨7, 6⟩) ⟨.prim .signed, [.prim .double]⟩ =
      .ok (.prim .float) := by
    rw [reachable_sample.wellFormed.answer_eq_firstAccepted known, alternatives,
      alternatives?_nested_overloads]
    rfl
  obtain ⟨result, answered, -, float, -⟩ :=
    reachable_sample.result_bottom_wanted_or_float known ⟨.prim .signed, [.prim .double]⟩
  obtain rfl := Except.ok.inj (answer.symm.trans answered)
  exact ⟨reachable_sample, known, answer, float rfl (by decide)⟩

end Arena

end TypedCalls
