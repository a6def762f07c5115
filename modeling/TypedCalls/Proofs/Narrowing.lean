import TypedCalls.Proofs.Matching

/-!
# Arguments of smaller types

A function takes arguments of exactly the declared types, so a value of a smaller type is refused. A
minimum or maximum, the foreign function and the rounding function take arguments by rule, and what
they take they also take at a smaller type. For a callee with such alternatives only, a call that is
accepted stays accepted when arguments are replaced by ones of smaller types. The result can change,
from a float to the wanted type, when an alternative before the rounding function begins to accept.
It cannot change the other way: one argument that the foreign function takes, the rounding function
takes as well.

Main statement: a callee without declared signatures that accepts a call accepts it with arguments
of smaller types.
-/

namespace TypedCalls

/-! ### Smaller types -/

namespace Ty

variable {t u : Ty}

theorem IsRoundable.of_isSubtype (h : u.IsRoundable) (below : t.IsSubtype u) : t.IsRoundable := by
  rcases h with h | h | h | h
  · exact .inl (below.trans h)
  · exact .inr (.inl (below.trans h))
  · exact .inr (.inr (.inl (below.trans h)))
  · exact .inr (.inr (.inr (below.trans h)))

private theorem mem_foreignArguments_all :
    ∀ p ∈ Prim.all, ∀ q ∈ foreignArguments, p.IsSubtype q → p ∈ foreignArguments := by
  decide +kernel

/-- Nothing but what is listed itself lies below the arguments of a foreign function. -/
theorem isAmong_foreignArguments_of_isSubtype (h : u.IsAmong foreignArguments)
    (below : t.IsSubtype u) : t.IsAmong foreignArguments := by
  rcases u with q | handle
  · rcases t with p | handle
    · exact mem_foreignArguments_all p (Prim.mem_all p) q h below
    · cases below
  · exact h.elim

/-- What a foreign function takes can be rounded: a double may not be absent, and a fixnum is
signed. -/
theorem isRoundable_of_isAmong_foreignArguments (h : t.IsAmong foreignArguments) :
    t.IsRoundable := by
  have listed : t ∈ [.prim .double, .prim .signed, Ty.prim .fixnum] := isAmong_iff_mem_map.1 h
  simp only [List.mem_cons, List.not_mem_nil, or_false] at listed
  rcases listed with rfl | rfl | rfl
  · exact .inr (.inl (by decide))
  · exact .inr (.inr (.inl (by decide)))
  · exact .inr (.inr (.inl (by decide)))

end Ty

namespace Arena

/-- What stands behind a handle takes calls by a rule of its own, and not by a declared
signature. -/
def TakesByRule (a : Arena) (handle : Handle) : Prop :=
  match a.get? handle with
  | some (.minMax _ _) | some .foreign | some .fround => True
  | some (.function _) | some (.overloads _) | some (.table _ _) | none => False

/-! ### Matches with smaller arguments -/

section

variable {a : Arena} {wanted : Ty} {args args' : List Ty} {leaf : Handle} {t : Ty}

/-- Functions and tables have a declared signature. -/
theorem not_takesByRule_of_function {s : Signature} (held : a.get? leaf = some (.function s)) :
    ¬ a.TakesByRule leaf := by
  simp [TakesByRule, held]

theorem not_takesByRule_of_table {length : UInt32} {signature : Ty}
    (held : a.get? leaf = some (.table length signature)) : ¬ a.TakesByRule leaf := by
  simp [TakesByRule, held]

/-- What takes calls by rule takes smaller arguments as well, with the same result. -/
theorem Matches.of_smaller (h : a.Matches ⟨wanted, args⟩ leaf t) (rule : a.TakesByRule leaf)
    (smaller : args'.Forall₂ Ty.IsSubtype args) : a.Matches ⟨wanted, args'⟩ leaf t := by
  cases h with
  | function held => exact absurd rule (not_takesByRule_of_function held)
  | table held => exact absurd rule (not_takesByRule_of_table held)
  | minMax held result several below =>
    refine .minMax held result (smaller.length_eq ▸ several) fun t ht => ?_
    obtain ⟨u, hu, lower⟩ := exists_mem_of_forall₂ smaller ht
    exact lower.trans (below u hu)
  | foreign held result passed =>
    refine .foreign held result fun t ht => ?_
    obtain ⟨u, hu, lower⟩ := exists_mem_of_forall₂ smaller ht
    have among : u.IsAmong foreignArguments := Ty.isAmong_iff_mem_map.2 (passed u hu)
    exact Ty.isAmong_iff_mem_map.1 (Ty.isAmong_foreignArguments_of_isSubtype among lower)
  | fround held single roundable =>
    subst single
    obtain ⟨u, rest, below, none_left, rfl⟩ := List.forall₂_cons_right_iff.1 smaller
    obtain rfl := List.forall₂_nil_right_iff.1 none_left
    exact .fround held rfl (roundable.of_isSubtype below)

/-- One argument that anything takes by rule, the rounding function takes as well. -/
theorem Matches.fround_of_single (h : a.Matches ⟨wanted, args⟩ leaf t) (rule : a.TakesByRule leaf)
    (single : args.length = 1) {other : Handle} (fround : a.get? other = some .fround) :
    a.Matches ⟨wanted, args⟩ other (.prim .float) := by
  obtain ⟨u, rfl⟩ := List.length_eq_one_iff.1 single
  refine .fround fround rfl ?_
  cases h with
  | function held => exact absurd rule (not_takesByRule_of_function held)
  | table held => exact absurd rule (not_takesByRule_of_table held)
  | minMax _ _ several => simp at several
  | foreign _ _ passed =>
    have among : u.IsAmong foreignArguments :=
      Ty.isAmong_iff_mem_map.2 (passed u List.mem_cons_self)
    exact Ty.isRoundable_of_isAmong_foreignArguments among
  | fround _ same roundable =>
    obtain rfl := List.singleton_inj.1 same
    exact roundable

end

/-! ### Accepted calls stay accepted -/

/-- Let alternatives take calls by rule, and let one of them accept a call. With smaller arguments
one of them accepts as well, and the first that does returns the same as before, or what is wanted
where a float was returned before. -/
theorem firstAccepted_of_smaller {a : Arena} {leaves : List Handle} {wanted : Ty}
    {args args' : List Ty} (rule : ∀ leaf ∈ leaves, a.TakesByRule leaf)
    (smaller : args'.Forall₂ Ty.IsSubtype args) {result narrowed : Ty}
    (hresult : firstAccepted (leaves.map (a.leafAnswer ⟨wanted, args⟩)) = result)
    (hnarrowed : firstAccepted (leaves.map (a.leafAnswer ⟨wanted, args'⟩)) = narrowed)
    (accepted : result ≠ .bottom) :
    narrowed ≠ .bottom ∧ (narrowed = result ∨ result = .prim .float ∧ narrowed = wanted) := by
  subst hresult
  obtain ⟨before, leaf, after, rfl, ⟨matched, -⟩, silent⟩ := firstFit_of_firstAccepted accepted
  generalize firstAccepted _ = result at accepted matched
  have takes : a.TakesByRule leaf := rule leaf (by simp)
  have still : a.leafAnswer ⟨wanted, args'⟩ leaf = result :=
    (matched.of_smaller takes smaller).leafAnswer_eq
  rw [List.map_append, List.map_cons, still, firstAccepted_append_cons _ _ accepted] at hnarrowed
  cases found : (before.map (a.leafAnswer ⟨wanted, args'⟩)).find? (· ≠ .bottom) with
  | none =>
    rw [found] at hnarrowed
    obtain rfl : result = narrowed := hnarrowed
    exact ⟨accepted, .inl rfl⟩
  | some u =>
    -- An alternative before the one that decided takes the smaller arguments.
    rw [found] at hnarrowed
    obtain rfl : u = narrowed := hnarrowed
    have begins : u ≠ .bottom := by simpa using List.find?_some found
    obtain ⟨other, earlier, answer⟩ := List.mem_map.1 (List.mem_of_find?_eq_some found)
    have matched' := matches_of_leafAnswer_eq answer begins
    refine ⟨begins, ?_⟩
    rcases matched'.eq_wanted_or_fround with rfl | ⟨rfl, fround, v, single, -⟩
    · rcases matched.eq_wanted_or_fround with wanted | ⟨float, -⟩
      · exact .inl wanted.symm
      · exact .inr ⟨float, rfl⟩
    · have one : args.length = 1 :=
        smaller.length_eq.symm.trans (List.length_eq_one_iff.2 ⟨v, single⟩)
      have already := matched.fround_of_single takes one fround
      exact absurd ⟨already, begins⟩ (silent other earlier _)

/-- In an arena that requests can lead to, put a call to a value type or to a compound type that the
arena holds, all of whose alternatives take calls by rule, and put it once more with arguments that
are, one by one, below those before. If the first call is accepted then so is the second. It returns
the same, or what is wanted where the first returned a float. -/
theorem Reachable.smaller_arguments_accepted {a : Arena} (h : a.Reachable) {callee : Ty}
    (known : a.Knows callee)
    (rule : ∀ leaf ∈ a.alternatives callee, a.TakesByRule leaf) (wanted : Ty)
    {args args' : List Ty} (smaller : args'.Forall₂ Ty.IsSubtype args) :
    ∃ result narrowed, a.answer callee ⟨wanted, args⟩ = .ok result ∧
      a.answer callee ⟨wanted, args'⟩ = .ok narrowed ∧
      (result ≠ .bottom → narrowed ≠ .bottom ∧
        (narrowed = result ∨ result = .prim .float ∧ narrowed = wanted)) := by
  have wf : a.WellFormed := h.wellFormed
  exact ⟨_, _, wf.answer_eq_firstAccepted known _, wf.answer_eq_firstAccepted known _,
    firstAccepted_of_smaller rule smaller rfl rfl⟩

/-- A set of the rounding function and, before it, a set of the foreign function and a maximum of
doubles. -/
def withoutSignatures : Arena :=
  ((Arena.empty 7 .standard).buildAll
    [.foreign,
      .minMax .double .double,
      .overloads [.compound ⟨7, 0⟩, .compound ⟨7, 1⟩],
      .fround,
      .overloads [.compound ⟨7, 2⟩, .compound ⟨7, 3⟩]]).2

/-- A double is wanted. A double that may be absent is taken by the rounding function alone, and a
double by the foreign function before it. -/
theorem present_double_still_accepted :
    withoutSignatures.Reachable ∧ withoutSignatures.Knows (.compound ⟨7, 4⟩) ∧
      (∀ leaf ∈ withoutSignatures.alternatives (.compound ⟨7, 4⟩),
        withoutSignatures.TakesByRule leaf) ∧
      [Ty.prim .double].Forall₂ Ty.IsSubtype [.prim .maybeDouble] ∧
      withoutSignatures.answer (.compound ⟨7, 4⟩) ⟨.prim .double, [.prim .maybeDouble]⟩ =
        .ok (.prim .float) ∧
      ∃ narrowed,
        withoutSignatures.answer (.compound ⟨7, 4⟩) ⟨.prim .double, [.prim .double]⟩ =
          .ok narrowed ∧
        narrowed ≠ .bottom ∧ (narrowed = .prim .float ∨ narrowed = .prim .double) := by
  have reachable : withoutSignatures.Reachable := (Reachable.empty 7 _).buildAll _
  have known : withoutSignatures.Knows (.compound ⟨7, 4⟩) := rfl
  have foreign : withoutSignatures.get? ⟨7, 0⟩ = some .foreign := rfl
  have minMax : withoutSignatures.get? ⟨7, 1⟩ = some (.minMax .double .double) := rfl
  have inner : withoutSignatures.get? ⟨7, 2⟩ =
    some (.overloads [.compound ⟨7, 0⟩, .compound ⟨7, 1⟩]) := rfl
  have fround : withoutSignatures.get? ⟨7, 3⟩ = some .fround := rfl
  have outer : withoutSignatures.get? ⟨7, 4⟩ =
    some (.overloads [.compound ⟨7, 2⟩, .compound ⟨7, 3⟩]) := rfl
  have leaves : withoutSignatures.alternatives (.compound ⟨7, 4⟩) =
      [⟨7, 0⟩, ⟨7, 1⟩, ⟨7, 3⟩] := by
    have wf : withoutSignatures.WellFormed := reachable.wellFormed
    simp only [wf.alternatives_overloads outer, wf.alternatives_overloads inner,
      List.flatMap_cons, List.flatMap_nil, alternatives_of_not_overloads foreign (by simp),
      alternatives_of_not_overloads minMax (by simp),
      alternatives_of_not_overloads fround (by simp)]
    rfl
  have rule : ∀ leaf ∈ withoutSignatures.alternatives (.compound ⟨7, 4⟩),
      withoutSignatures.TakesByRule leaf := by
    rw [leaves]
    simp only [List.forall_mem_cons]
    exact ⟨trivial, trivial, trivial, by simp⟩
  have smaller : [Ty.prim .double].Forall₂ Ty.IsSubtype [.prim .maybeDouble] :=
    .cons (by decide) .nil
  have answer : withoutSignatures.answer (.compound ⟨7, 4⟩) ⟨.prim .double, [.prim .maybeDouble]⟩ =
      .ok (.prim .float) := by
    rw [reachable.wellFormed.answer_eq_firstAccepted known, leaves]
    rfl
  obtain ⟨result, narrowed, here, there, accepted⟩ :=
    reachable.smaller_arguments_accepted known rule (.prim .double) smaller
  obtain rfl := Except.ok.inj (answer.symm.trans here)
  obtain ⟨still, alike⟩ := accepted (by decide)
  exact ⟨reachable, known, rule, smaller, answer, narrowed, there, still, alike.imp_right And.right⟩

end Arena

end TypedCalls
