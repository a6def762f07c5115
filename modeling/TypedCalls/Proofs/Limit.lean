import Mathlib.Data.List.Forall2
import TypedCalls.Proofs.Embedding
import TypedCalls.Proofs.Verdict

/-!
# The limit as a cut-off

An arena looks at its limit only when it is about to add a compound type. So the same requests have
the same answers with and without a limit, up to the first addition that the limit forbids. There
the arena with the limit is full, and it stays as it is from then on.

Main statements: one request, and a run of requests, with and without a limit, and that a full arena
does not change.
-/

namespace TypedCalls

namespace Arena

/-- The arena with other settings. -/
def withSettings (a : Arena) (settings : Settings) : Arena :=
  { a with settings }

@[simp] theorem get?_withSettings (a : Arena) (settings : Settings) (handle : Handle) :
    (a.withSettings settings).get? handle = a.get? handle := rfl

@[simp] theorem size_withSettings (a : Arena) (settings : Settings) :
    (a.withSettings settings).size = a.size := rfl

@[simp] theorem settings_withSettings (a : Arena) (settings : Settings) :
    (a.withSettings settings).settings = settings := rfl

@[simp] theorem remembered?_withSettings (a : Arena) (settings : Settings) (node : Node) :
    (a.withSettings settings).remembered? node = a.remembered? node := by
  cases node <;> rfl

/-! ### What does not depend on the settings -/

theorem embeds_withSettings (a : Arena) (settings : Settings) :
    Embeds (fun t => t) a (a.withSettings settings) :=
  embeds_of_kept fun handle _ hn => (get?_withSettings a settings handle).trans hn

theorem partFault?_withSettings (a : Arena) (settings : Settings) (t : Ty) :
    (a.withSettings settings).partFault? t = a.partFault? t := by
  cases t <;> rfl

section

variable {a : Arena}

/-- A check of a kind reads the stored types and their names, neither of which depends on the
settings. -/
theorem WellFormed.kindFault?_withSettings (h : a.WellFormed) (settings : Settings)
    (kind : Ty → Prop) [DecidablePred kind] (cause : String → BuildError) (t : Ty) :
    (a.withSettings settings).kindFault? kind cause t = a.kindFault? kind cause t := by
  unfold kindFault?
  rw [partFault?_withSettings]
  cases sound : a.partFault? t with
  | some e => rfl
  | none =>
    have known : a.Knows t := partFault?_eq_none_iff.1 sound
    have named : (a.withSettings settings).name t = a.name t :=
      (embeds_withSettings a settings).name_map h known
    simp only [refusal, named]

/-- The first fault of the parts of a compound type does not depend on the settings. -/
theorem WellFormed.fault?_withSettings (h : a.WellFormed) (settings : Settings) (node : Node) :
    (a.withSettings settings).fault? node = a.fault? node := by
  cases node with
  | function s =>
    have each : (a.withSettings settings).partFault? = a.partFault? :=
      funext (partFault?_withSettings a settings)
    simp only [fault?, each]
  | overloads members =>
    have each : (a.withSettings settings).memberFault? = a.memberFault? :=
      funext fun t => h.kindFault?_withSettings settings a.IsCallable .notCallable t
    simp only [fault?, each]
  | table length signature =>
    exact h.kindFault?_withSettings settings a.IsFunction .notFunction signature
  | _ => rfl

end

/-! ### One request with and without a limit -/

section

variable {a : Arena} {settings : Settings} {limit : UInt64}

/-- A request adds at most one compound type. -/
theorem size_build_le (a : Arena) (node : Node) : (a.build node).2.size ≤ a.size + 1 := by
  have outcome := outcome_build a node
  generalize a.build node = result at outcome ⊢
  cases outcome with
  | added => exact Nat.le_of_eq (size_withNode a node)
  | _ => exact Nat.le_succ a.size

/-- As long as an arena without a limit holds no more than a limit allows, a request is answered as
with that limit, and changes the arena in the same way. -/
theorem WellFormed.build_withSettings (h : a.WellFormed) (unlimited : a.settings.limit = none)
    (capped : settings.limit = some limit) {node : Node}
    (within : (a.build node).2.size ≤ limit.toNat) :
    (a.withSettings settings).build node =
      ((a.build node).1, (a.build node).2.withSettings settings) := by
  have faults := h.fault?_withSettings settings node
  have memory := remembered?_withSettings a settings node
  have outcome := outcome_build a node
  generalize a.build node = result at outcome within ⊢
  cases outcome with
  | known old => rw [build_of_known (memory.trans old)]
  | faulty new fault => rw [build_of_fault (faults.trans fault)]
  | full new sound reached =>
    rw [reachedLimit?_of_unlimited unlimited] at reached
    cases reached
  | added new sound room =>
    have larger : a.size + 1 ≤ limit.toNat := size_withNode a node ▸ within
    have fits : (a.withSettings settings).reachedLimit? = none := by
      refine reachedLimit?_eq_none_iff.2 fun other hother => ?_
      obtain rfl := Option.some.inj (capped.symm.trans hother)
      exact larger
    rw [build_of_room (memory.trans new) (faults.trans sound) fits]
    rfl

/-- Where an arena without a limit adds one compound type more than a limit allows, the same request
is refused with that limit. -/
theorem WellFormed.build_past_limit (h : a.WellFormed) (capped : settings.limit = some limit)
    {node : Node} (full : a.size = limit.toNat)
    (grows : (a.build node).2.size = limit.toNat + 1) :
    (a.withSettings settings).build node =
        (.error (.limitExceeded limit), a.withSettings settings) ∧
      (a.build node).1 = .ok a.nextHandle := by
  have faults := h.fault?_withSettings settings node
  have memory := remembered?_withSettings a settings node
  have reached : (a.withSettings settings).reachedLimit? = some limit :=
    reachedLimit?_eq_some_iff.2 ⟨capped, Nat.le_of_eq full.symm⟩
  have outcome := outcome_build a node
  generalize a.build node = result at outcome grows ⊢
  cases outcome with
  | added new sound room =>
    exact ⟨build_of_full (memory.trans new) (faults.trans sound) reached, rfl⟩
  | _ =>
    -- Any other outcome leaves the size as it is.
    have same : a.size = limit.toNat + 1 := grows
    omega

/-- For an arena within a limit, the answers to a request with and without the limit differ exactly
if the request goes past it. -/
theorem WellFormed.answers_differ_iff (h : a.WellFormed) (unlimited : a.settings.limit = none)
    (capped : settings.limit = some limit) (within : a.size ≤ limit.toNat) {node : Node} :
    ((a.withSettings settings).build node).1 ≠ (a.build node).1 ↔
      a.size = limit.toNat ∧ (a.build node).2.size = limit.toNat + 1 := by
  constructor
  · intro differ
    have most : (a.build node).2.size ≤ a.size + 1 := size_build_le a node
    have past : ¬ (a.build node).2.size ≤ limit.toNat := by
      intro fits
      rw [h.build_withSettings unlimited capped fits] at differ
      exact differ rfl
    omega
  · rintro ⟨full, grows⟩ same
    obtain ⟨refused, granted⟩ := h.build_past_limit capped full grows
    rw [refused, granted] at same
    cases same

/-- A full arena answers with a refusal or with a handle that it gives out again, and does not
change. -/
theorem Reachable.build_of_reachedLimit (h : a.Reachable) (reached : a.reachedLimit? = some limit)
    (node : Node) :
    (a.build node).2 = a ∧ ((∃ e, (a.build node).1 = .error e) ∨
      ∃ handle, (a.build node).1 = .ok handle ∧ a.HasBuilt node handle) := by
  have outcome := outcome_build a node
  generalize a.build node = result at outcome ⊢
  cases outcome with
  | known old => exact ⟨rfl, .inr ⟨_, rfl, (h.remembered?_eq_some_iff _ _).1 old⟩⟩
  | faulty => exact ⟨rfl, .inl ⟨_, rfl⟩⟩
  | full => exact ⟨rfl, .inl ⟨_, rfl⟩⟩
  | added new sound room =>
    rw [reached] at room
    cases room

end

/-! ### Runs with and without a limit -/

section

variable {a b : Arena} {settings : Settings} {limit : UInt64}

/-- An arena does not get a limit. -/
theorem Extends.unlimited (h : Extends b a) (unlimited : a.settings.limit = none) :
    b.settings.limit = none := by
  rw [h.settings_eq]
  exact unlimited

/-- As long as an arena without a limit holds no more than a limit allows, a run of requests is
answered as with that limit, and changes the arena in the same way. -/
theorem Reachable.buildAll_withSettings (h : a.Reachable) (unlimited : a.settings.limit = none)
    (capped : settings.limit = some limit) {requests : List Node}
    (within : (a.buildAll requests).2.size ≤ limit.toNat) :
    (a.withSettings settings).buildAll requests =
      ((a.buildAll requests).1, (a.buildAll requests).2.withSettings settings) := by
  induction requests generalizing a with
  | nil => rfl
  | cons node rest ih =>
    rw [buildAll_cons] at within
    have grown : (a.build node).2.size ≤ ((a.build node).2.buildAll rest).2.size :=
      (extends_buildAll (a.build node).2 rest).size_le
    have step := h.wellFormed.build_withSettings unlimited capped (Nat.le_trans grown within)
    have still : (a.build node).2.settings.limit = none :=
      (extends_build a node).unlimited unlimited
    rw [buildAll_cons, buildAll_cons, step, ih (h.build node) still within]

/-- If a run of requests is answered alike with and without a limit, then the arena without the
limit holds no more than the limit allows: an addition past the limit would have been refused. -/
theorem Reachable.size_le_of_answers_eq (h : a.Reachable) (unlimited : a.settings.limit = none)
    (capped : settings.limit = some limit) (small : a.size ≤ limit.toNat) {requests : List Node}
    (alike : ((a.withSettings settings).buildAll requests).1 = (a.buildAll requests).1) :
    (a.buildAll requests).2.size ≤ limit.toNat := by
  induction requests generalizing a with
  | nil => exact small
  | cons node rest ih =>
    rw [buildAll_cons, buildAll_cons] at alike
    obtain ⟨first, others⟩ := List.cons.inj alike
    have within : (a.build node).2.size ≤ limit.toNat := by
      by_contra past
      have most : (a.build node).2.size ≤ a.size + 1 := size_build_le a node
      refine (h.wellFormed.answers_differ_iff unlimited capped small).2 ⟨?_, ?_⟩ first <;> omega
    have still : (a.build node).2.settings.limit = none :=
      (extends_build a node).unlimited unlimited
    rw [h.wellFormed.build_withSettings unlimited capped within] at others
    exact ih (h.build node) still within others

/-- A full arena is the same after any run of requests, each of which is refused or answered with a
handle that the arena gives out again. -/
theorem Reachable.buildAll_of_reachedLimit (h : a.Reachable)
    (reached : a.reachedLimit? = some limit) (requests : List Node) :
    (a.buildAll requests).2 = a ∧
      List.Forall₂ (fun node answer => (∃ e, answer = .error e) ∨
        ∃ handle, answer = .ok handle ∧ a.HasBuilt node handle)
      requests (a.buildAll requests).1 := by
  induction requests with
  | nil => exact ⟨rfl, .nil⟩
  | cons node rest ih =>
    obtain ⟨unchanged, answer⟩ := h.build_of_reachedLimit reached node
    obtain ⟨stays, answers⟩ := ih
    rw [buildAll_cons, unchanged]
    exact ⟨stays, .cons answer answers⟩

/-- An arena never holds more compound types than its limit allows. -/
theorem Reachable.size_le_limit (h : a.Reachable) :
    ∀ limit, a.settings.limit = some limit → a.size ≤ limit.toNat := by
  refine Reachable.invariant
    (P := fun a => ∀ limit, a.settings.limit = some limit → a.size ≤ limit.toNat) ?_ ?_ h
  · intro id settings limit _
    exact Nat.zero_le limit.toNat
  · intro a node _ _ _ room limit capped
    have fits : a.size < limit.toNat := reachedLimit?_eq_none_iff.1 room limit capped
    rw [size_withNode]
    omega

end

/-- Make the same requests to two arenas of one identity, one with a limit and one without.

As long as the arena without a limit holds no more compound types than the limit allows, the answers
are the same and so are the arenas, but for their settings. After the same answers so far, the
answers to one more request differ exactly if with it the arena without a limit goes past the limit.
The arena with the limit then refuses for the limit and does not change. Whatever is requested after
that, it keeps its size, and each answer is a refusal or the handle under which the foreign function
or the rounding function has been built. No arena ever holds more than its limit allows. -/
theorem limit_is_cutoff (id : UInt32) (s t : Settings) (limit : UInt64) :
    let limited := (Arena.empty id (s.withLimit limit)).buildAll
    let unlimited := (Arena.empty id t.unlimited).buildAll
    (∀ requests, (unlimited requests).2.size ≤ limit.toNat →
      (limited requests).1 = (unlimited requests).1 ∧
      (limited requests).2 = { (unlimited requests).2 with settings := s.withLimit limit }) ∧
    (∀ requests node, (limited requests).1 = (unlimited requests).1 →
      (((limited requests).2.build node).1 ≠ ((unlimited requests).2.build node).1 ↔
        (unlimited requests).2.size = limit.toNat ∧
          ((unlimited requests).2.build node).2.size = limit.toNat + 1)) ∧
    (∀ requests node, (unlimited requests).2.size = limit.toNat →
      ((unlimited requests).2.build node).2.size = limit.toNat + 1 →
      let full := (limited requests).2
      full.build node = (.error (.limitExceeded limit), full) ∧
      ∀ later, (full.buildAll later).2.size = limit.toNat ∧
        List.Forall₂ (fun node answer => (∃ e, answer = .error e) ∨
          ∃ handle, answer = .ok handle ∧ full.HasBuilt node handle)
        later (full.buildAll later).1) ∧
    ∀ a : Arena, a.Reachable → a.settings.limit = some limit → a.size ≤ limit.toNat := by
  intro limited unlimited
  have start : (Arena.empty id t.unlimited).Reachable := .empty id t.unlimited
  have free : (Arena.empty id t.unlimited).settings.limit = none := rfl
  have capped : (s.withLimit limit).limit = some limit := rfl
  have agree : ∀ requests, (unlimited requests).2.size ≤ limit.toNat →
      limited requests =
        ((unlimited requests).1, (unlimited requests).2.withSettings (s.withLimit limit)) :=
    fun requests within => start.buildAll_withSettings free capped within
  have reachable : ∀ requests, (unlimited requests).2.Reachable :=
    fun requests => start.buildAll requests
  have still : ∀ requests, (unlimited requests).2.settings.limit = none :=
    fun requests => (extends_buildAll _ requests).unlimited free
  refine ⟨?_, ?_, ?_, ?_⟩
  · intro requests within
    rw [agree requests within]
    exact ⟨rfl, rfl⟩
  · intro requests node alike
    have within : (unlimited requests).2.size ≤ limit.toNat :=
      start.size_le_of_answers_eq free capped (Nat.zero_le _) alike
    rw [agree requests within]
    exact (reachable requests).wellFormed.answers_differ_iff (still requests) capped within
  · intro requests node atLimit grows full
    have wf := (reachable requests).wellFormed
    have state : full = (unlimited requests).2.withSettings (s.withLimit limit) :=
      congrArg Prod.snd (agree requests (Nat.le_of_eq atLimit))
    have size : full.size = limit.toNat := by
      rw [state, size_withSettings]
      exact atLimit
    have reached : full.reachedLimit? = some limit := by
      refine reachedLimit?_eq_some_iff.2 ⟨?_, Nat.le_of_eq size.symm⟩
      rw [state, settings_withSettings]
      exact capped
    have fullReachable : full.Reachable := (Reachable.empty id _).buildAll requests
    constructor
    · rw [state]
      exact (wf.build_past_limit capped atLimit grows).1
    · intro later
      obtain ⟨stays, answers⟩ := fullReachable.buildAll_of_reachedLimit reached later
      refine ⟨?_, answers⟩
      rw [stays]
      exact size
  · intro a h hlimit
    exact h.size_le_limit limit hlimit

/-- With a limit of one, the foreign function is all that an arena holds. The first addition after
it, which an arena without a limit makes, is refused, and so it stays in later requests. -/
theorem foreign_fills_limit_of_one :
    let full := ((Arena.empty 5 (Settings.standard.withLimit 1)).buildAll [.foreign]).2
    ((Arena.empty 5 Settings.standard.unlimited).buildAll [.foreign]).2.size = 1 ∧
      (((Arena.empty 5 Settings.standard.unlimited).buildAll [.foreign]).2.build .fround).2.size =
        2 ∧
      full.build .fround = (.error (.limitExceeded 1), full) ∧
      (full.buildAll [.fround, .foreign, .minMax .int .int]).2.size = 1 := by
  intro full
  obtain ⟨-, -, past, -⟩ := limit_is_cutoff 5 .standard .standard 1
  obtain ⟨refused, stays⟩ := past [.foreign] .fround rfl rfl
  exact ⟨rfl, rfl, refused, (stays [.fround, .foreign, .minMax .int .int]).1⟩

end Arena

end TypedCalls
