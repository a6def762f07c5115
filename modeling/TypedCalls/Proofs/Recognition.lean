import TypedCalls.Proofs.ResultRange

/-!
# Recognising a signature

To call a callee with the signature of a function is to ask whether the callee has a function that
is equal to it. Handles do not matter for this, so functions that were built apart are recognised as
equal, but the types in a signature are compared as they stand, and for a compound type that is by
its handle.

Main statement: a callee of functions and tables takes a call with the signature of a function
exactly if one of its alternatives, or the signature of a table among them, is equal to that
function.
-/

namespace TypedCalls

/-- A signature is its result and its parameters. -/
theorem Signature.eq_of_fields {s s' : Signature} (result : s'.result = s.result)
    (params : s'.params = s.params) : s' = s := by
  cases s'
  cases s
  exact congr (congrArg Signature.mk result) params

namespace Arena

/-- What stands behind a handle takes calls by a declared signature, its own or that of the
functions in a table. -/
def TakesBySignature (a : Arena) (handle : Handle) : Prop :=
  match a.get? handle with
  | some (.function _) | some (.table _ _) => True
  | some (.overloads _) | some (.minMax _ _) | some .foreign | some .fround | none => False

/-- An alternative, or its signature if it is a table, is equal to a type in what stands behind it.
-/
inductive StandsFor (a : Arena) (t : Ty) (leaf : Handle) : Prop where
  /-- The alternative itself. -/
  | self (same : a.get? leaf = a.node? t)
  /-- The signature of a table. -/
  | signature {length : UInt32} {signature : Ty}
      (held : a.get? leaf = some (.table length signature))
      (same : a.node? signature = a.node? t)

variable {a : Arena} {g : Ty} {s : Signature} {leaf : Handle} {t : Ty}

/-! ### Matches with a declared signature -/

/-- What stands for a function matches a call with the signature of the function. -/
theorem StandsFor.matches (h : a.StandsFor g leaf) (hg : a.function? g = some s) :
    a.Matches ⟨s.result, s.params⟩ leaf s.result := by
  have function : a.node? g = some (.function s) := function?_eq_some_iff.1 hg
  cases h with
  | self same => exact .function (same.trans function) rfl rfl
  | signature held same =>
    have declared : a.function? _ = some s := function?_eq_some_iff.2 (same.trans function)
    exact .table held declared rfl rfl

/-- What takes calls by a declared signature, and matches a call with the signature of a function,
stands for that function. -/
theorem Matches.standsFor (h : a.Matches ⟨s.result, s.params⟩ leaf t)
    (declared : a.TakesBySignature leaf) (hg : a.function? g = some s) :
    a.StandsFor g leaf ∧ t = s.result := by
  have function : a.node? g = some (.function s) := function?_eq_some_iff.1 hg
  cases h with
  | function held wanted params =>
    obtain rfl := Signature.eq_of_fields wanted params
    exact ⟨.self (held.trans function.symm), rfl⟩
  | table held found wanted params =>
    obtain rfl := Signature.eq_of_fields wanted params
    have stored : a.node? _ = some (.function _) := function?_eq_some_iff.1 found
    exact ⟨.signature held (stored.trans function.symm), rfl⟩
  | minMax held => simp [TakesBySignature, held] at declared
  | foreign held => simp [TakesBySignature, held] at declared
  | fround held => simp [TakesBySignature, held] at declared

/-- Of alternatives that take calls by a declared signature, a call with the signature of a function
gets its result if one of them stands for the function, and `bottom` otherwise. -/
theorem firstAccepted_of_signature {leaves : List Handle}
    (declared : ∀ leaf ∈ leaves, a.TakesBySignature leaf) (hg : a.function? g = some s)
    (proper : s.result ≠ .bottom) :
    ((∃ leaf ∈ leaves, a.StandsFor g leaf) →
      firstAccepted (leaves.map (a.leafAnswer ⟨s.result, s.params⟩)) = s.result) ∧
    ((∀ leaf ∈ leaves, ¬ a.StandsFor g leaf) →
      firstAccepted (leaves.map (a.leafAnswer ⟨s.result, s.params⟩)) = .bottom) := by
  have decided := decidedByFirst_accepts a ⟨s.result, s.params⟩ leaves
  constructor
  · rintro ⟨leaf, listed, stands⟩
    -- Some alternative accepts, so the first that does decides, and it matches with this result.
    have accepted : firstAccepted (leaves.map (a.leafAnswer ⟨s.result, s.params⟩)) ≠ .bottom := by
      intro refused
      have accepts : a.Accepts ⟨s.result, s.params⟩ leaf s.result := ⟨stands.matches hg, proper⟩
      exact decided.bottom_iff.1 refused leaf listed s.result accepts
    obtain ⟨before, first, after, rfl, ⟨matched, -⟩, -⟩ := firstFit_of_firstAccepted accepted
    exact (matched.standsFor (declared first (by simp)) hg).2
  · intro none_stands
    refine decided.bottom_iff.2 fun leaf listed t accepts => ?_
    exact none_stands leaf listed (accepts.1.standsFor (declared leaf listed) hg).1

/-! ### Calls with the signature of a function -/

/-- In an arena that requests can lead to, take a function that is not declared to return `bottom`,
and put a call with its result and its parameters to a callee that the arena knows. If all
alternatives of the callee are functions and tables, the call returns the result of the function if
one of them, or the signature of a table among them, is equal to the function, and `bottom` if none
is. So another function accepts the call exactly if it is equal to the first, whatever their handles
are. -/
theorem Reachable.equal_functions_recognised (h : a.Reachable) (hg : a.function? g = some s)
    (proper : s.result ≠ .bottom) :
    (∀ callee, a.Knows callee → ∃ leaves, a.alternatives? callee = some leaves ∧
      ((∀ leaf ∈ leaves, a.TakesBySignature leaf) →
        ((∃ leaf ∈ leaves, a.StandsFor g leaf) →
          a.answer callee ⟨s.result, s.params⟩ = .ok s.result) ∧
        ((∀ leaf ∈ leaves, ¬ a.StandsFor g leaf) →
          a.answer callee ⟨s.result, s.params⟩ = .ok .bottom))) ∧
    ∀ f, a.IsFunction f → ∃ result, a.answer f ⟨s.result, s.params⟩ = .ok result ∧
      (result ≠ .bottom ↔ a.node? f = a.node? g) := by
  have wf : a.WellFormed := h.wellFormed
  constructor
  · intro callee known
    refine ⟨a.alternatives callee, wf.alternatives?_eq_some callee, fun declared => ?_⟩
    rw [wf.answer_eq_firstAccepted known, Except.ok.injEq, Except.ok.injEq]
    exact firstAccepted_of_signature declared hg proper
  · intro f function
    obtain ⟨s', hs'⟩ := Option.isSome_iff_exists.1 function
    have held : a.node? f = some (.function s') := function?_eq_some_iff.1 hs'
    obtain ⟨handle, rfl⟩ := exists_of_node? held
    rw [answer_function held, s'.answer_eq_exactAnswer, function?_eq_some_iff.1 hg, held]
    refine ⟨_, rfl, ?_⟩
    unfold Signature.exactAnswer
    split
    · rename_i same
      obtain rfl := Signature.eq_of_fields same.1 same.2
      exact iff_of_true proper rfl
    · rename_i differ
      refine iff_of_false (fun accepted => accepted rfl) fun same => differ ?_
      obtain rfl := Node.function.inj (Option.some.inj same)
      exact ⟨rfl, rfl⟩

/-- Two equal functions that were built apart, a longer one, and a set with a table of the second
function two levels down. -/
def twins : Arena :=
  ((Arena.empty 7 .standard).buildAll
    [.function ⟨.prim .int, [.prim .double]⟩,
      .function ⟨.prim .int, [.prim .double]⟩,
      .function ⟨.prim .int, [.prim .double, .prim .double]⟩,
      .table 4 (.compound ⟨7, 1⟩),
      .overloads [.compound ⟨7, 2⟩, .compound ⟨7, 3⟩],
      .overloads [.compound ⟨7, 4⟩]]).2

/-- The set recognises the first function by the table of the second, and the second function
recognises the first under its other handle. The longer function does not. -/
theorem twin_recognised_in_table :
    twins.Reachable ∧ twins.function? (.compound ⟨7, 0⟩) = some ⟨.prim .int, [.prim .double]⟩ ∧
      Ty.prim .int ≠ .bottom ∧ twins.Knows (.compound ⟨7, 5⟩) ∧
      twins.answer (.compound ⟨7, 5⟩) ⟨.prim .int, [.prim .double]⟩ = .ok (.prim .int) ∧
      (∃ result, twins.answer (.compound ⟨7, 1⟩) ⟨.prim .int, [.prim .double]⟩ = .ok result ∧
        result ≠ .bottom) ∧
      ∃ result, twins.answer (.compound ⟨7, 2⟩) ⟨.prim .int, [.prim .double]⟩ = .ok result ∧
        result = .bottom := by
  have reachable : twins.Reachable := (Reachable.empty 7 _).buildAll _
  have signature : twins.function? (.compound ⟨7, 0⟩) = some ⟨.prim .int, [.prim .double]⟩ := rfl
  have proper : Ty.prim .int ≠ .bottom := by decide
  have known : twins.Knows (.compound ⟨7, 5⟩) := rfl
  have outer : twins.get? ⟨7, 5⟩ = some (.overloads [.compound ⟨7, 4⟩]) := rfl
  have inner : twins.get? ⟨7, 4⟩ =
    some (.overloads [.compound ⟨7, 2⟩, .compound ⟨7, 3⟩]) := rfl
  have longer : twins.get? ⟨7, 2⟩ =
    some (.function ⟨.prim .int, [.prim .double, .prim .double]⟩) := rfl
  have table : twins.get? ⟨7, 3⟩ = some (.table 4 (.compound ⟨7, 1⟩)) := rfl
  have laid_out : twins.alternatives? (.compound ⟨7, 5⟩) = some [⟨7, 2⟩, ⟨7, 3⟩] := by
    rw [alternatives?_overloads outer]
    simp only [List.mapM_cons, List.mapM_nil, alternatives?_overloads inner,
      alternatives?_of_not_overloads longer (by simp),
      alternatives?_of_not_overloads table (by simp)]
    rfl
  obtain ⟨sets, functions⟩ := reachable.equal_functions_recognised signature proper
  obtain ⟨leaves, hleaves, recognised⟩ := sets _ known
  obtain rfl := Option.some.inj (laid_out.symm.trans hleaves)
  have declared : ∀ leaf ∈ [(⟨7, 2⟩ : Handle), ⟨7, 3⟩], twins.TakesBySignature leaf := by
    simp only [List.forall_mem_cons]
    exact ⟨trivial, trivial, by simp⟩
  have stands : ∃ leaf ∈ [(⟨7, 2⟩ : Handle), ⟨7, 3⟩], twins.StandsFor (.compound ⟨7, 0⟩) leaf :=
    ⟨⟨7, 3⟩, by simp, .signature table rfl⟩
  obtain ⟨result, answer, accepted⟩ := functions (.compound ⟨7, 1⟩) rfl
  obtain ⟨other, refusal, refused⟩ := functions (.compound ⟨7, 2⟩) rfl
  refine ⟨reachable, signature, proper, known, (recognised declared).1 stands,
    ⟨result, answer, accepted.2 rfl⟩, other, refusal, ?_⟩
  by_contra taken
  have same := refused.1 taken
  cases same

end Arena

end TypedCalls
