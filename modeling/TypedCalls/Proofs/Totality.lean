import TypedCalls.Proofs.Resolution

/-!
# When questions fail

A question about a type follows handles, and stops with a failure at a handle that leads nowhere. In
a well-formed arena only the type in question can be such a handle: its parts are known, and so are
theirs. A request shows the name of a part only after it has found the part, so that name is there.

Main statements: a question fails exactly if it is about a handle without a compound type, and then
with that handle, and a request never meets a missing part.
-/

namespace TypedCalls

namespace Arena

variable {a : Arena}

/-- What an arena does not know is a handle without a compound type. -/
theorem not_knows_iff {t : Ty} :
    ¬ a.Knows t ↔ ∃ handle, t = .compound handle ∧ a.get? handle = none := by
  cases t with
  | prim p => simp [Knows]
  | compound handle => simp [Knows]

/-! ### Questions about types -/

/-- Every type that a well-formed arena knows has a name. -/
theorem WellFormed.exists_name (h : a.WellFormed) {t : Ty} (known : a.Knows t) :
    ∃ text, a.name t = .ok text := by
  refine h.induction_known (P := fun t => ∃ text, a.name t = .ok text) ?_ ?_ known
  · intro p
    exact ⟨p.name, name_prim a p⟩
  · intro handle node hn named
    cases node with
    | function s =>
      obtain ⟨result, hresult⟩ := named s.result List.mem_cons_self
      obtain ⟨params, hparams⟩ :=
        exists_mapM_eq_pure fun t ht => named t (List.mem_cons_of_mem s.result ht)
      refine ⟨functionText params result, ?_⟩
      rw [name_function hn, hparams, hresult]
      rfl
    | overloads members =>
      obtain ⟨texts, htexts⟩ : ∃ texts, members.mapM a.name = .ok texts :=
        exists_mapM_eq_pure named
      refine ⟨overloadsText texts, ?_⟩
      rw [name_overloads hn, htexts]
      rfl
    | minMax bound result => exact ⟨minMaxText bound result, name_minMax hn⟩
    | foreign => exact ⟨"Function", name_foreign hn⟩
    | fround => exact ⟨"fround", name_fround hn⟩
    | table length signature =>
      obtain ⟨text, htext⟩ := named signature List.mem_cons_self
      refine ⟨tableText length text, ?_⟩
      rw [name_table hn, htext]
      rfl

/-- A name fails only for a handle without a compound type. -/
theorem WellFormed.name_eq_error_iff (h : a.WellFormed) {t : Ty} {e : QueryError} :
    a.name t = .error e ↔
      ∃ handle, t = .compound handle ∧ a.get? handle = none ∧ e = .notFound handle := by
  constructor
  · intro failed
    by_cases known : a.Knows t
    · obtain ⟨text, htext⟩ := h.exists_name known
      rw [htext] at failed
      cases failed
    · obtain ⟨handle, rfl, missing⟩ := not_knows_iff.1 known
      rw [name_of_get?_eq_none missing] at failed
      exact ⟨handle, rfl, missing, (Except.error.inj failed).symm⟩
  · rintro ⟨handle, rfl, missing, rfl⟩
    exact name_of_get?_eq_none missing

/-- A call fails only if the callee is a handle without a compound type. -/
theorem WellFormed.answer_eq_error_iff (h : a.WellFormed) {callee : Ty} {call : Call}
    {e : QueryError} :
    a.answer callee call = .error e ↔
      ∃ handle, callee = .compound handle ∧ a.get? handle = none ∧ e = .notFound handle := by
  constructor
  · intro failed
    by_cases known : a.Knows callee
    · rw [h.answer_eq_firstAccepted known] at failed
      cases failed
    · obtain ⟨handle, rfl, missing⟩ := not_knows_iff.1 known
      rw [answer_of_get?_eq_none missing] at failed
      exact ⟨handle, rfl, missing, (Except.error.inj failed).symm⟩
  · rintro ⟨handle, rfl, missing, rfl⟩
    exact answer_of_get?_eq_none missing call

/-! ### Requests -/

/-- The check of a part meets no missing part of its own. -/
theorem partFault?_ne_broken {t : Ty} {e : QueryError} : a.partFault? t ≠ some (.broken e) := by
  unfold partFault?
  intro broken
  split at broken
  · cases broken
  · split at broken <;> cases broken

/-- A refusal can show the name of a type that a well-formed arena knows. -/
theorem WellFormed.exists_refusal (h : a.WellFormed) {t : Ty} (known : a.Knows t)
    (cause : String → BuildError) : ∃ text, a.refusal cause t = cause text := by
  obtain ⟨text, htext⟩ := h.exists_name known
  exact ⟨text, by rw [refusal, htext]⟩

/-- The check of a kind meets no missing part: the part whose name it shows has been found. -/
theorem WellFormed.kindFault?_ne_broken (h : a.WellFormed) {kind : Ty → Prop}
    [DecidablePred kind] {cause : String → BuildError} {e : QueryError}
    (orderly : ∀ text, cause text ≠ .broken e) {t : Ty} :
    a.kindFault? kind cause t ≠ some (.broken e) := by
  unfold kindFault?
  intro broken
  split at broken
  · rename_i fault hfault
    exact partFault?_ne_broken (hfault.trans broken)
  · rename_i sound
    split at broken
    · cases broken
    · have known : a.Knows t := partFault?_eq_none_iff.1 sound
      obtain ⟨text, htext⟩ := h.exists_refusal known cause
      rw [htext] at broken
      exact orderly text (Option.some.inj broken)

/-- The check of the parts of a compound type meets no missing part. -/
theorem WellFormed.fault?_ne_broken (h : a.WellFormed) {node : Node} {e : QueryError} :
    a.fault? node ≠ some (.broken e) := by
  intro broken
  cases node with
  | function s =>
    obtain ⟨t, -, ht⟩ := List.exists_of_findSome?_eq_some broken
    exact partFault?_ne_broken ht
  | overloads members =>
    obtain ⟨t, -, ht⟩ := List.exists_of_findSome?_eq_some broken
    exact h.kindFault?_ne_broken (by simp) ht
  | table length signature => exact h.kindFault?_ne_broken (by simp) broken
  | _ => cases broken

/-- A request to a well-formed arena meets no missing part. -/
theorem WellFormed.build_ne_broken (h : a.WellFormed) (node : Node) (e : QueryError) :
    (a.build node).1 ≠ .error (.broken e) := by
  have outcome := outcome_build a node
  generalize a.build node = result at outcome ⊢
  cases outcome with
  | known old => simp
  | faulty new fault =>
    intro broken
    have same := Except.error.inj broken
    rw [same] at fault
    exact h.fault?_ne_broken fault
  | full new sound reached => simp
  | added new sound room => simp

/-! ### Where reachable arenas fail -/

/-- In an arena that requests can lead to, naming a type and putting a call to it come to an end.
They fail exactly if the type itself is a handle without a compound type here, and then report that
handle: not for what is wanted or passed, not for a part that they meet on the way, and never for
the signature of a table. No request, refused or not, fails to find a part or to put the name of one
together. -/
theorem Reachable.fails_iff_subject_unknown (h : a.Reachable) :
    (∀ t e, a.name t = .error e ↔
      ∃ handle, t = .compound handle ∧ a.get? handle = none ∧ e = .notFound handle) ∧
    (∀ callee call e, a.answer callee call = .error e ↔
      ∃ handle, callee = .compound handle ∧ a.get? handle = none ∧ e = .notFound handle) ∧
    ∀ node e, (a.build node).1 ≠ .error (.broken e) := by
  have wf := h.wellFormed
  refine ⟨?_, ?_, ?_⟩
  · intro t e
    exact wf.name_eq_error_iff
  · intro callee call e
    exact wf.answer_eq_error_iff
  · intro node e
    exact wf.build_ne_broken node e

/-- A handle of another arena has no name here, yet it can be passed in a call, and a request that
names it, or a value type that cannot be called, is refused in an orderly way. -/
theorem foreign_handle_fails_as_subject_only :
    sample.Reachable ∧ sample.get? ⟨8, 0⟩ = none ∧
      sample.name (.compound ⟨8, 0⟩) = .error (.notFound ⟨8, 0⟩) ∧
      (∀ e, sample.answer (.compound ⟨7, 6⟩) ⟨.compound ⟨8, 0⟩, [.compound ⟨8, 1⟩]⟩ ≠ .error e) ∧
      (∀ e, (sample.build (.table 3 (.compound ⟨7, 6⟩))).1 ≠ .error (.broken e)) := by
  obtain ⟨names, answers, requests⟩ := reachable_sample.fails_iff_subject_unknown
  refine ⟨reachable_sample, rfl, ?_, ?_, requests _⟩
  · exact (names _ _).2 ⟨_, rfl, rfl, rfl⟩
  · intro e failed
    obtain ⟨handle, same, missing, -⟩ := (answers _ _ _).1 failed
    cases same
    cases missing

end Arena

end TypedCalls
