import TypedCalls.Proofs.Resolution

/-!
# Matching alternatives

Whether an alternative matches a call is one thing, what it then returns is another. A function, or
a minimum or maximum, can be declared to return `bottom`, and a match of it looks to a set of
overloads like no match: the set goes on to the next alternative. This happens only to calls that
want `bottom`, as all declared results are wanted ones.

Main statements: an alternative answers with its result if it matches, and with `bottom` if it does
not, and a call is decided by the first alternative that matches with a result other than `bottom`.
Where something else than `bottom` is wanted, that is the first alternative that matches.
-/

namespace TypedCalls

/-- A type that can be rounded to single precision: one at or below floatish, a double that may be
absent, signed or unsigned. -/
def Ty.IsRoundable (t : Ty) : Prop :=
  t.IsSubtype (.prim .floatish) ∨ t.IsSubtype (.prim .maybeDouble) ∨
    t.IsSubtype (.prim .signed) ∨ t.IsSubtype (.prim .unsigned)

namespace Arena

/-- An alternative matches a call, and returns the given result. -/
inductive Matches (a : Arena) (call : Call) (leaf : Handle) : Ty → Prop where
  /-- A function is called for its result with its parameters. -/
  | function {s : Signature} (held : a.get? leaf = some (.function s))
      (wanted : s.result = call.wanted) (params : s.params = call.args) :
      Matches a call leaf s.result
  /-- A table is called as its signature. -/
  | table {length : UInt32} {signature : Ty} {s : Signature}
      (held : a.get? leaf = some (.table length signature))
      (function : a.function? signature = some s) (wanted : s.result = call.wanted)
      (params : s.params = call.args) : Matches a call leaf s.result
  /-- A minimum or maximum is called for its result with two or more arguments below its bound. -/
  | minMax {bound result : Prim} (held : a.get? leaf = some (.minMax bound result))
      (wanted : .prim result = call.wanted) (several : 2 ≤ call.args.length)
      (below : ∀ t ∈ call.args, t.IsSubtype (.prim bound)) : Matches a call leaf (.prim result)
  /-- A foreign function is called for one of three types with arguments of three types. -/
  | foreign (held : a.get? leaf = some .foreign)
      (wanted : call.wanted ∈ [.prim .void, .prim .double, .prim .signed])
      (passed : ∀ t ∈ call.args, t ∈ [.prim .double, .prim .signed, Ty.prim .fixnum]) :
      Matches a call leaf call.wanted
  /-- The rounding function is called, for whatever type, with one argument. -/
  | fround {t : Ty} (held : a.get? leaf = some .fround) (single : call.args = [t])
      (roundable : t.IsRoundable) : Matches a call leaf (.prim .float)

/-- An alternative matches a call and returns something. -/
def Accepts (a : Arena) (call : Call) (leaf : Handle) (t : Ty) : Prop :=
  a.Matches call leaf t ∧ t ≠ .bottom

/-- One of the alternatives fits with a result, and none of those before it fits with any. -/
def FirstFit (fits : Handle → Ty → Prop) (leaves : List Handle) (t : Ty) : Prop :=
  ∃ before leaf after, leaves = before ++ leaf :: after ∧ fits leaf t ∧
    ∀ other ∈ before, ∀ u, ¬ fits other u

/-- The first of the alternatives that fits decides: the result is its result and not that of a
later one, and is `bottom` exactly if none of them fits. -/
structure DecidedByFirst (fits : Handle → Ty → Prop) (leaves : List Handle) (result : Ty) :
    Prop where
  first : ∀ t, FirstFit fits leaves t → result = t
  bottom_iff : result = .bottom ↔ ∀ leaf ∈ leaves, ∀ t, ¬ fits leaf t

/-! ### Matches and answers -/

section

variable {a : Arena} {call : Call} {leaf : Handle} {t : Ty}

/-- A choice between an answer and `bottom` that is not `bottom` is the answer. -/
theorem of_ite_bottom_eq {c : Prop} [Decidable c] {u : Ty} (h : (if c then u else .bottom) = t)
    (ht : t ≠ .bottom) : c ∧ u = t := by
  by_cases hc : c
  · exact ⟨hc, (if_pos hc).symm.trans h⟩
  · exact absurd ((if_neg hc).symm.trans h).symm ht

/-- An alternative that matches answers with its result. -/
theorem Matches.leafAnswer_eq (h : a.Matches call leaf t) : a.leafAnswer call leaf = t := by
  unfold leafAnswer
  cases h with
  | function held wanted params =>
    rw [held]
    exact if_pos ⟨wanted, params⟩
  | table held function wanted params =>
    simp only [held, function]
    exact if_pos ⟨wanted, params⟩
  | minMax held wanted several below =>
    rw [held]
    exact if_pos ⟨wanted.symm, several, below⟩
  | foreign held wanted passed =>
    rw [held]
    exact if_pos ⟨wanted, passed⟩
  | fround held single roundable =>
    rw [held, single]
    refine if_pos ⟨rfl, fun u hu => ?_⟩
    obtain rfl := List.mem_singleton.1 hu
    exact roundable

/-- An alternative that answers with something matches. -/
theorem matches_of_leafAnswer_eq (h : a.leafAnswer call leaf = t) (ht : t ≠ .bottom) :
    a.Matches call leaf t := by
  unfold leafAnswer at h
  split at h
  · rename_i s held
    obtain ⟨⟨wanted, params⟩, rfl⟩ := of_ite_bottom_eq h ht
    exact .function held wanted params
  · rename_i length signature held
    split at h
    · rename_i s function
      obtain ⟨⟨wanted, params⟩, rfl⟩ := of_ite_bottom_eq h ht
      exact .table held function wanted params
    · exact absurd h.symm ht
  · rename_i bound result held
    obtain ⟨⟨wanted, several, below⟩, rfl⟩ := of_ite_bottom_eq h ht
    exact .minMax held wanted.symm several below
  · rename_i held
    obtain ⟨⟨wanted, passed⟩, rfl⟩ := of_ite_bottom_eq h ht
    exact .foreign held wanted passed
  · rename_i held
    obtain ⟨⟨one, roundable⟩, rfl⟩ := of_ite_bottom_eq h ht
    obtain ⟨u, single⟩ := List.length_eq_one_iff.1 one
    have passed : u ∈ call.args := single ▸ List.mem_cons_self
    exact .fround held single (roundable u passed)
  · exact absurd h.symm ht
  · exact absurd h.symm ht

theorem accepts_iff : a.Accepts call leaf t ↔ a.leafAnswer call leaf = t ∧ t ≠ .bottom := by
  constructor
  · rintro ⟨matched, ht⟩
    exact ⟨matched.leafAnswer_eq, ht⟩
  · rintro ⟨answer, ht⟩
    exact ⟨matches_of_leafAnswer_eq answer ht, ht⟩

/-- An alternative accepts with no result exactly if it answers with `bottom`. -/
theorem forall_not_accepts_iff :
    (∀ t, ¬ a.Accepts call leaf t) ↔ a.leafAnswer call leaf = .bottom := by
  simp only [accepts_iff, not_and, ne_eq, not_not, forall_eq']

/-- What a match returns is wanted, but for the rounding function. -/
theorem Matches.eq_wanted_or_fround (h : a.Matches call leaf t) :
    t = call.wanted ∨
      t = .prim .float ∧ a.get? leaf = some .fround ∧ ∃ u, call.args = [u] ∧ u.IsRoundable := by
  cases h with
  | function held wanted params => exact .inl wanted
  | table held function wanted params => exact .inl wanted
  | minMax held wanted several below => exact .inl wanted
  | foreign held wanted passed => exact .inl rfl
  | fround held single roundable => exact .inr ⟨rfl, held, _, single, roundable⟩

/-- A match returns `bottom` only where `bottom` is wanted. -/
theorem Matches.accepts (h : a.Matches call leaf t) (wanted : call.wanted ≠ .bottom) :
    a.Accepts call leaf t := by
  refine ⟨h, ?_⟩
  rcases h.eq_wanted_or_fround with rfl | ⟨rfl, -⟩
  · exact wanted
  · decide

end

/-! ### The first that accepts -/

section

variable {a : Arena} {call : Call} {leaves : List Handle} {t : Ty}

/-- The first accepting answer is that of the first alternative that accepts. -/
theorem decidedByFirst_accepts (a : Arena) (call : Call) (leaves : List Handle) :
    DecidedByFirst (a.Accepts call) leaves (firstAccepted (leaves.map (a.leafAnswer call))) := by
  constructor
  · rintro t ⟨before, leaf, after, rfl, accepts, silent⟩
    obtain ⟨answer, ht⟩ := accepts_iff.1 accepts
    have passed_over : (before.map (a.leafAnswer call)).find? (· ≠ .bottom) = none := by
      simpa [← forall_not_accepts_iff] using silent
    rw [List.map_append, List.map_cons, answer, firstAccepted_append_cons _ _ ht, passed_over]
    rfl
  · simp only [firstAccepted_eq_bottom_iff, List.forall_mem_map, forall_not_accepts_iff]

/-- An accepting answer is that of the first alternative that accepts. -/
theorem firstFit_of_firstAccepted
    (accepted : firstAccepted (leaves.map (a.leafAnswer call)) ≠ .bottom) :
    FirstFit (a.Accepts call) leaves (firstAccepted (leaves.map (a.leafAnswer call))) := by
  cases found : leaves.find? (a.leafAnswer call · ≠ .bottom) with
  | none =>
    refine absurd (firstAccepted_eq_bottom_iff.2 ?_) accepted
    simpa using found
  | some leaf =>
    obtain ⟨accepts, before, after, rfl, silent⟩ := List.find?_eq_some_iff_append.1 found
    have accepting : a.Accepts call leaf (a.leafAnswer call leaf) :=
      accepts_iff.2 ⟨rfl, by simpa using accepts⟩
    have first : FirstFit (a.Accepts call) (before ++ leaf :: after) (a.leafAnswer call leaf) := by
      refine ⟨before, leaf, after, rfl, accepting, fun other earlier => ?_⟩
      exact forall_not_accepts_iff.2 (by simpa using silent other earlier)
    rwa [(decidedByFirst_accepts a call _).first _ first]

/-- What decides does not change if the same alternatives fit with the same results. -/
theorem DecidedByFirst.congr {fits fits' : Handle → Ty → Prop} {result : Ty}
    (h : DecidedByFirst fits leaves result) (same : ∀ leaf t, fits leaf t ↔ fits' leaf t) :
    DecidedByFirst fits' leaves result := by
  obtain rfl : fits = fits' := by
    funext leaf t
    exact propext (same leaf t)
  exact h

end

/-! ### Which alternative decides a call -/

/-- In an arena that requests can lead to, put a call to a value type or to a compound type that the
arena holds. Of its alternatives, the first that matches with a result other than `bottom` decides:
its result is returned, and `bottom` exactly if there is none. If something else than `bottom` is
wanted, then every match has such a result, so the first alternative that matches decides, and
`bottom` means that none does. -/
theorem Reachable.first_accepting_decides {a : Arena} (h : a.Reachable) {callee : Ty}
    (known : a.Knows callee) (call : Call) :
    ∃ leaves result, a.alternatives? callee = some leaves ∧ a.answer callee call = .ok result ∧
      DecidedByFirst (a.Accepts call) leaves result ∧
      (call.wanted ≠ .bottom → DecidedByFirst (a.Matches call) leaves result) := by
  have wf : a.WellFormed := h.wellFormed
  have decided := decidedByFirst_accepts a call (a.alternatives callee)
  refine ⟨_, _, wf.alternatives?_eq_some callee, wf.answer_eq_firstAccepted known call, decided, ?_⟩
  intro wanted
  refine decided.congr fun leaf t => ?_
  exact ⟨And.left, fun matched => matched.accepts wanted⟩

/-- A set of a function that is declared to return `bottom`, and of the rounding function after
it. -/
def silentFirst : Arena :=
  ((Arena.empty 7 .standard).buildAll
    [.function ⟨.bottom, [.prim .fixnum]⟩,
      .fround,
      .overloads [.compound ⟨7, 0⟩, .compound ⟨7, 1⟩]]).2

theorem get?_silentFirst :
    silentFirst.get? ⟨7, 0⟩ = some (.function ⟨.bottom, [.prim .fixnum]⟩) ∧
      silentFirst.get? ⟨7, 1⟩ = some .fround ∧
      silentFirst.get? ⟨7, 2⟩ = some (.overloads [.compound ⟨7, 0⟩, .compound ⟨7, 1⟩]) :=
  ⟨rfl, rfl, rfl⟩

theorem alternatives?_silentFirst :
    silentFirst.alternatives? (.compound ⟨7, 2⟩) = some [⟨7, 0⟩, ⟨7, 1⟩] := by
  obtain ⟨function, fround, set⟩ := get?_silentFirst
  rw [alternatives?_overloads set]
  simp only [List.mapM_cons, List.mapM_nil, alternatives?_of_not_overloads function (by simp),
    alternatives?_of_not_overloads fround (by simp)]
  rfl

theorem answer_silentFirst :
    silentFirst.answer (.compound ⟨7, 2⟩) ⟨.bottom, [.prim .fixnum]⟩ = .ok (.prim .float) := by
  obtain ⟨function, fround, set⟩ := get?_silentFirst
  rw [answer_overloads set]
  simp only [List.findSomeM?, answer_function function, answer_fround fround]
  rfl

/-- The function is called as it is declared, so it matches, and it is the first that does. Yet the
answer is that of the rounding function after it. Nor does `bottom` mean that nothing matches: it is
the answer of the function alone. -/
theorem first_match_passed_over :
    silentFirst.Reachable ∧
      silentFirst.alternatives? (.compound ⟨7, 2⟩) = some [⟨7, 0⟩, ⟨7, 1⟩] ∧
      FirstFit (silentFirst.Matches ⟨.bottom, [.prim .fixnum]⟩) [⟨7, 0⟩, ⟨7, 1⟩] .bottom ∧
      silentFirst.answer (.compound ⟨7, 2⟩) ⟨.bottom, [.prim .fixnum]⟩ = .ok (.prim .float) ∧
      ¬ DecidedByFirst (silentFirst.Matches ⟨.bottom, [.prim .fixnum]⟩) [⟨7, 0⟩, ⟨7, 1⟩]
        (.prim .float) ∧
      silentFirst.answer (.compound ⟨7, 0⟩) ⟨.bottom, [.prim .fixnum]⟩ = .ok .bottom ∧
      ¬ DecidedByFirst (silentFirst.Matches ⟨.bottom, [.prim .fixnum]⟩) [⟨7, 0⟩] .bottom := by
  obtain ⟨function, -, -⟩ := get?_silentFirst
  have reachable : silentFirst.Reachable := (Reachable.empty 7 _).buildAll _
  have matched : silentFirst.Matches ⟨.bottom, [.prim .fixnum]⟩ ⟨7, 0⟩ .bottom :=
    .function function rfl rfl
  have first : FirstFit (silentFirst.Matches ⟨.bottom, [.prim .fixnum]⟩) [⟨7, 0⟩, ⟨7, 1⟩] .bottom :=
    ⟨[], ⟨7, 0⟩, [⟨7, 1⟩], rfl, matched, by simp⟩
  refine ⟨reachable, alternatives?_silentFirst, first, answer_silentFirst, ?_, ?_, ?_⟩
  · intro decided
    cases decided.first .bottom first
  · rw [answer_function function]
    rfl
  · intro decided
    exact decided.bottom_iff.1 rfl ⟨7, 0⟩ List.mem_cons_self .bottom matched

/-- The rounding function is the first alternative with a result other than `bottom`. Where void is
wanted the function does not match, and the rounding function is the first that does. -/
theorem fround_decides_after_silent_match :
    silentFirst.Reachable ∧ silentFirst.Knows (.compound ⟨7, 2⟩) ∧
      DecidedByFirst (silentFirst.Accepts ⟨.bottom, [.prim .fixnum]⟩) [⟨7, 0⟩, ⟨7, 1⟩]
        (.prim .float) ∧
      ∃ result, silentFirst.answer (.compound ⟨7, 2⟩) ⟨.prim .void, [.prim .fixnum]⟩ = .ok result ∧
        DecidedByFirst (silentFirst.Matches ⟨.prim .void, [.prim .fixnum]⟩) [⟨7, 0⟩, ⟨7, 1⟩]
          result := by
  have reachable : silentFirst.Reachable := (Reachable.empty 7 _).buildAll _
  have known : silentFirst.Knows (.compound ⟨7, 2⟩) := rfl
  obtain ⟨leaves, result, hleaves, hanswer, decided, -⟩ :=
    reachable.first_accepting_decides known ⟨.bottom, [.prim .fixnum]⟩
  obtain rfl := Option.some.inj (alternatives?_silentFirst.symm.trans hleaves)
  obtain rfl := Except.ok.inj (answer_silentFirst.symm.trans hanswer)
  obtain ⟨others, result, hothers, hanswer, -, matched⟩ :=
    reachable.first_accepting_decides known ⟨.prim .void, [.prim .fixnum]⟩
  obtain rfl := Option.some.inj (alternatives?_silentFirst.symm.trans hothers)
  exact ⟨reachable, known, decided, result, hanswer, matched (by decide)⟩

end Arena

end TypedCalls
