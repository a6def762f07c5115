import TypedCalls.Proofs.ResultRange

/-!
# Order of overloads

A set of overloads answers by the first of its members that accepts, so their order could matter to
every call. It matters little: whatever alternatives accept a call, they return the wanted type, all
but the rounding function. So only a set that offers the rounding function can answer differently
when its members are reordered, and then only with a float in the place of the wanted type.

Main statement: two sets of overloads with the same members in different orders answer alike, up to
a float from the rounding function.
-/

namespace TypedCalls

namespace Arena

/-- If the answers that accept are of two types, the first of them in one order and the first of
them in another are the same, or one of each type. -/
theorem firstAccepted_eq_or_of_perm {answers others : List Ty} (reordered : answers.Perm others)
    {u v : Ty} (range : ∀ t ∈ answers, t = .bottom ∨ t = u ∨ t = v) :
    firstAccepted answers = firstAccepted others ∨
      firstAccepted answers = u ∧ firstAccepted others = v ∨
        firstAccepted answers = v ∧ firstAccepted others = u := by
  by_cases silent : firstAccepted answers = .bottom
  · have all_silent := firstAccepted_eq_bottom_iff.1 silent
    have others_silent : firstAccepted others = .bottom :=
      firstAccepted_eq_bottom_iff.2 fun t ht => all_silent t (reordered.mem_iff.2 ht)
    exact .inl (silent.trans others_silent.symm)
  · have accepting : firstAccepted others ≠ .bottom := by
      intro others_silent
      have all_silent := firstAccepted_eq_bottom_iff.1 others_silent
      exact silent (firstAccepted_eq_bottom_iff.2 fun t ht => all_silent t (reordered.mem_iff.1 ht))
    have here := range _ (firstAccepted_mem silent)
    have there := range _ (reordered.mem_iff.2 (firstAccepted_mem accepting))
    rcases here.resolve_left silent with hu | hv <;>
      rcases there.resolve_left accepting with hu' | hv'
    · exact .inl (hu.trans hu'.symm)
    · exact .inr (.inl ⟨hu, hv'⟩)
    · exact .inr (.inr ⟨hv, hu'⟩)
    · exact .inl (hv.trans hv'.symm)

variable {a : Arena}

/-- An alternative answers with `bottom` or with what is wanted, unless it is the rounding function
and there is one argument. -/
theorem leafAnswer_eq_or (a : Arena) (call : Call) (leaf : Handle) :
    (a.leafAnswer call leaf = .bottom ∨ a.leafAnswer call leaf = call.wanted) ∨
      a.leafAnswer call leaf = .prim .float ∧ a.get? leaf = some .fround ∧
        call.args.length = 1 := by
  by_cases silent : a.leafAnswer call leaf = .bottom
  · exact .inl (.inl silent)
  · have matched := matches_of_leafAnswer_eq rfl silent
    rcases matched.eq_wanted_or_fround with wanted | ⟨float, fround, u, single, -⟩
    · exact .inl (.inr wanted)
    · exact .inr ⟨float, fround, List.length_eq_one_iff.2 ⟨u, single⟩⟩

/-- The alternatives of a set are reordered with its members. -/
theorem WellFormed.alternatives_perm (h : a.WellFormed) {first second : Handle}
    {members others : List Ty} (hfirst : a.get? first = some (.overloads members))
    (hsecond : a.get? second = some (.overloads others)) (reordered : members.Perm others) :
    (a.alternatives (.compound first)).Perm (a.alternatives (.compound second)) := by
  rw [h.alternatives_overloads hfirst, h.alternatives_overloads hsecond]
  exact reordered.flatMap_right _

/-- If no member of a set offers the rounding function, then it is no alternative of the set. -/
theorem WellFormed.not_fround_of_mem_alternatives (h : a.WellFormed) {set : Handle}
    {members : List Ty} (hset : a.get? set = some (.overloads members))
    (none_offered : ∀ t ∈ members, ∀ u, a.OfferedBy u t → ¬ a.IsFround u) {leaf : Handle}
    (listed : leaf ∈ a.alternatives (.compound set)) : a.get? leaf ≠ some .fround := by
  intro fround
  rw [h.alternatives_overloads hset] at listed
  obtain ⟨t, ht, below⟩ := List.mem_flatMap.1 listed
  obtain ⟨u, offered, isFround⟩ := h.offeredBy_of_fround below fround
  exact none_offered t ht u offered isFround

/-- In an arena that requests can lead to, put a call to two sets of overloads whose members, which
may be sets again, are the same up to their order. If there is not exactly one argument, or no
member is the rounding function or offers it through sets of overloads, both return the same. In any
case they return the same, or one a float and the other the type that is wanted. -/
theorem Reachable.order_matters_for_fround_only (h : a.Reachable) {first second : Handle}
    {members others : List Ty} (hfirst : a.get? first = some (.overloads members))
    (hsecond : a.get? second = some (.overloads others)) (reordered : members.Perm others)
    (call : Call) :
    ∃ result other, a.answer (.compound first) call = .ok result ∧
      a.answer (.compound second) call = .ok other ∧
      (call.args.length ≠ 1 ∨ (∀ t ∈ members, ∀ u, a.OfferedBy u t → ¬ a.IsFround u) →
        result = other) ∧
      (result = other ∨ result = .prim .float ∧ other = call.wanted ∨
        result = call.wanted ∧ other = .prim .float) := by
  have wf : a.WellFormed := h.wellFormed
  have known : a.Knows (.compound first) := Option.isSome_iff_exists.2 ⟨_, hfirst⟩
  have known' : a.Knows (.compound second) := Option.isSome_iff_exists.2 ⟨_, hsecond⟩
  have answers := (wf.alternatives_perm hfirst hsecond reordered).map (a.leafAnswer call)
  refine ⟨_, _, wf.answer_eq_firstAccepted known call, wf.answer_eq_firstAccepted known' call,
    ?_, ?_⟩
  · intro settled
    -- Without the rounding function, all answers that accept are the wanted type.
    have wanted : ∀ t ∈ (a.alternatives (.compound first)).map (a.leafAnswer call),
        t = .bottom ∨ t = call.wanted ∨ t = call.wanted := by
      intro t ht
      obtain ⟨leaf, listed, rfl⟩ := List.mem_map.1 ht
      rcases leafAnswer_eq_or a call leaf with (silent | wanted) | ⟨-, fround, one⟩
      · exact .inl silent
      · exact .inr (.inl wanted)
      · rcases settled with several | none_offered
        · exact absurd one several
        · exact absurd fround (wf.not_fround_of_mem_alternatives hfirst none_offered listed)
    rcases firstAccepted_eq_or_of_perm answers wanted with same | ⟨here, there⟩ | ⟨here, there⟩
    · exact same
    · exact here.trans there.symm
    · exact here.trans there.symm
  · refine firstAccepted_eq_or_of_perm answers ?_
    intro t ht
    obtain ⟨leaf, -, rfl⟩ := List.mem_map.1 ht
    rcases leafAnswer_eq_or a call leaf with (silent | wanted) | ⟨float, -, -⟩
    · exact .inl silent
    · exact .inr (.inr wanted)
    · exact .inr (.inl float)

/-- Two sets of the same members in different orders: a function from float to void, and a set of
the rounding function alone. -/
def mirrored : Arena :=
  ((Arena.empty 7 .standard).buildAll
    [.fround,
      .function ⟨.prim .void, [.prim .float]⟩,
      .overloads [.compound ⟨7, 0⟩],
      .overloads [.compound ⟨7, 2⟩, .compound ⟨7, 1⟩],
      .overloads [.compound ⟨7, 1⟩, .compound ⟨7, 2⟩]]).2

/-- For one argument that both alternatives take, the first set returns a float and the second the
wanted void. Without arguments the sets answer alike. -/
theorem mirrored_sets_differ_by_fround :
    mirrored.Reachable ∧
      mirrored.get? ⟨7, 3⟩ = some (.overloads [.compound ⟨7, 2⟩, .compound ⟨7, 1⟩]) ∧
      mirrored.get? ⟨7, 4⟩ = some (.overloads [.compound ⟨7, 1⟩, .compound ⟨7, 2⟩]) ∧
      (mirrored.answer (.compound ⟨7, 3⟩) ⟨.prim .void, [.prim .float]⟩ = .ok (.prim .float) ∧
        mirrored.answer (.compound ⟨7, 4⟩) ⟨.prim .void, [.prim .float]⟩ = .ok (.prim .void)) ∧
      ∃ result, mirrored.answer (.compound ⟨7, 3⟩) ⟨.prim .void, []⟩ = .ok result ∧
        mirrored.answer (.compound ⟨7, 4⟩) ⟨.prim .void, []⟩ = .ok result := by
  have reachable : mirrored.Reachable := (Reachable.empty 7 _).buildAll _
  have fround : mirrored.get? ⟨7, 0⟩ = some .fround := rfl
  have function : mirrored.get? ⟨7, 1⟩ = some (.function ⟨.prim .void, [.prim .float]⟩) := rfl
  have inner : mirrored.get? ⟨7, 2⟩ = some (.overloads [.compound ⟨7, 0⟩]) := rfl
  have first : mirrored.get? ⟨7, 3⟩ =
    some (.overloads [.compound ⟨7, 2⟩, .compound ⟨7, 1⟩]) := rfl
  have second : mirrored.get? ⟨7, 4⟩ =
    some (.overloads [.compound ⟨7, 1⟩, .compound ⟨7, 2⟩]) := rfl
  have answers : mirrored.answer (.compound ⟨7, 3⟩) ⟨.prim .void, [.prim .float]⟩ =
      .ok (.prim .float) := by
    rw [answer_overloads first]
    simp only [List.findSomeM?, answer_overloads inner, answer_fround fround]
    rfl
  have others : mirrored.answer (.compound ⟨7, 4⟩) ⟨.prim .void, [.prim .float]⟩ =
      .ok (.prim .void) := by
    rw [answer_overloads second]
    simp only [List.findSomeM?, answer_function function]
    rfl
  obtain ⟨result, other, here, there, alike, -⟩ :=
    reachable.order_matters_for_fround_only first second (.swap _ _ _) ⟨.prim .void, []⟩
  have same : result = other := alike (.inl (by decide))
  exact ⟨reachable, first, second, ⟨answers, others⟩, result, here, same ▸ there⟩

end Arena

end TypedCalls
