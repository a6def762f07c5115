import TypedCalls.Arena.Draft
import TypedCalls.Proofs.Totality

/-!
# Verdicts on requests

What an arena answers to a request is a matter of precedence. The first fault of the parts comes
before everything else, even in a full arena. The foreign function and the rounding function, once
they have been built, are given out again, even by a full arena. Only what passes both questions
needs room, and is refused if there is none.

Main statements: which fault of the parts is the first, which handles are given out again, and what
exactly comes of each request.
-/

namespace TypedCalls

namespace Arena

/-- The first fault of the parts of a compound type, in the order in which they are given. -/
inductive FirstFault (a : Arena) : Node → BuildError → Prop where
  /-- Of the result and then the parameters of a function, a handle without a compound type. -/
  | unknownPart {s : Signature} {handle : Handle} {before after : List Ty}
      (parts : s.result :: s.params = before ++ .compound handle :: after)
      (known : ∀ t ∈ before, a.Knows t) (missing : a.get? handle = none) :
      FirstFault a (.function s) (.unknownHandle handle)
  /-- Of the members of a set of overloads, a handle without a compound type. -/
  | unknownMember {handle : Handle} {before after : List Ty}
      (callable : ∀ t ∈ before, a.IsCallable t) (missing : a.get? handle = none) :
      FirstFault a (.overloads (before ++ .compound handle :: after)) (.unknownHandle handle)
  /-- Of the members of a set of overloads, a value type. -/
  | valueMember {p : Prim} {before after : List Ty} (callable : ∀ t ∈ before, a.IsCallable t) :
      FirstFault a (.overloads (before ++ .prim p :: after)) (.notCallable p.name)
  /-- The signature of a table, as a handle without a compound type. -/
  | unknownSignature {length : UInt32} {handle : Handle} (missing : a.get? handle = none) :
      FirstFault a (.table length (.compound handle)) (.unknownHandle handle)
  /-- The signature of a table, as a type that the arena knows, but not as a function. -/
  | otherSignature {length : UInt32} {signature : Ty} {text : String}
      (known : a.Knows signature) (other : a.function? signature = none)
      (named : a.name signature = .ok text) :
      FirstFault a (.table length signature) (.notFunction text)

/-- The foreign function or the rounding function stands in the arena, at the position that the
handle names. -/
def HasBuilt (a : Arena) (node : Node) (handle : Handle) : Prop :=
  (node = .foreign ∨ node = .fround) ∧
    ∃ position, a.nodes[position]? = some node ∧ handle = ⟨a.id, UInt32.ofNat position⟩

/-- A request without fault, for a compound type that has to be added. -/
def NeedsRoom (a : Arena) (node : Node) : Prop :=
  (∀ e, ¬ a.FirstFault node e) ∧ ∀ handle, ¬ a.HasBuilt node handle

/-! ### Which fault is the first -/

section

variable {a : Arena} {t : Ty} {e : BuildError}

theorem partFault?_eq_some_iff :
    a.partFault? t = some e ↔
      ∃ handle, t = .compound handle ∧ a.get? handle = none ∧ e = .unknownHandle handle := by
  cases t with
  | prim p => simp [partFault?]
  | compound handle =>
    cases hn : a.get? handle with
    | none => simp [partFault?, hn, eq_comm]
    | some node => simp [partFault?, hn]

/-- A part that has to be of some kind is at fault as a handle without a compound type, or as a type
of another kind that the arena knows. -/
theorem kindFault?_eq_some_iff {kind : Ty → Prop} [DecidablePred kind]
    {cause : String → BuildError} :
    a.kindFault? kind cause t = some e ↔
      (∃ handle, t = .compound handle ∧ a.get? handle = none ∧ e = .unknownHandle handle) ∨
        a.Knows t ∧ ¬ kind t ∧ e = a.refusal cause t := by
  rw [← partFault?_eq_some_iff]
  unfold kindFault?
  cases sound : a.partFault? t with
  | some fault =>
    have unknown : ¬ a.Knows t := by
      rw [← partFault?_eq_none_iff, sound]
      exact Option.some_ne_none fault
    simp [unknown]
  | none =>
    have known : a.Knows t := partFault?_eq_none_iff.1 sound
    simp [known, eq_comm]

/-- A member of a set of overloads is at fault as a handle without a compound type, or as a value
type, whose name is always there. -/
theorem memberFault?_eq_some_iff :
    a.memberFault? t = some e ↔
      (∃ handle, t = .compound handle ∧ a.get? handle = none ∧ e = .unknownHandle handle) ∨
        ∃ p, t = .prim p ∧ e = .notCallable p.name := by
  rw [memberFault?, kindFault?_eq_some_iff]
  refine or_congr_right ?_
  cases t with
  | prim p => simp [Knows, IsCallable, refusal]
  | compound handle =>
    -- Every compound type that the arena knows can be called.
    constructor
    · rintro ⟨known, refused, -⟩
      exact absurd known refused
    · rintro ⟨p, ⟨⟩, -⟩

/-- The signature of a table is at fault as a handle without a compound type, or as a type of
another shape, which is known and so has a name. -/
theorem WellFormed.signatureFault?_eq_some_iff (h : a.WellFormed) :
    a.signatureFault? t = some e ↔
      (∃ handle, t = .compound handle ∧ a.get? handle = none ∧ e = .unknownHandle handle) ∨
        a.Knows t ∧ a.function? t = none ∧ ∃ text, a.name t = .ok text ∧ e = .notFunction text := by
  rw [signatureFault?, kindFault?_eq_some_iff]
  refine or_congr_right (and_congr_right fun known => ?_)
  obtain ⟨text, htext⟩ := h.exists_name known
  simp [IsFunction, refusal, htext]

end

/-- The check of a compound type reports the first fault of its parts. -/
theorem WellFormed.fault?_eq_some_iff {a : Arena} (h : a.WellFormed) {node : Node}
    {e : BuildError} : a.fault? node = some e ↔ a.FirstFault node e := by
  constructor
  · intro fault
    cases node with
    | function s =>
      obtain ⟨before, t, after, parts, ht, sound⟩ := List.findSome?_eq_some_iff.1 fault
      obtain ⟨handle, rfl, missing, rfl⟩ := partFault?_eq_some_iff.1 ht
      exact .unknownPart parts (fun t ht => partFault?_eq_none_iff.1 (sound t ht)) missing
    | overloads members =>
      obtain ⟨before, t, after, rfl, ht, sound⟩ := List.findSome?_eq_some_iff.1 fault
      have callable : ∀ t ∈ before, a.IsCallable t :=
        fun t ht => memberFault?_eq_none_iff.1 (sound t ht)
      rcases memberFault?_eq_some_iff.1 ht with ⟨handle, rfl, missing, rfl⟩ | ⟨p, rfl, rfl⟩
      · exact .unknownMember callable missing
      · exact .valueMember callable
    | table length signature =>
      rcases h.signatureFault?_eq_some_iff.1 fault with
        ⟨handle, rfl, missing, rfl⟩ | ⟨known, other, text, named, rfl⟩
      · exact .unknownSignature missing
      · exact .otherSignature known other named
    | _ => cases fault
  · intro fault
    cases fault with
    | unknownPart parts known missing =>
      refine List.findSome?_eq_some_iff.2 ⟨_, _, _, parts, ?_, ?_⟩
      · exact partFault?_eq_some_iff.2 ⟨_, rfl, missing, rfl⟩
      · exact fun t ht => partFault?_eq_none_iff.2 (known t ht)
    | unknownMember callable missing =>
      refine List.findSome?_eq_some_iff.2 ⟨_, _, _, rfl, ?_, ?_⟩
      · exact memberFault?_eq_some_iff.2 (.inl ⟨_, rfl, missing, rfl⟩)
      · exact fun t ht => memberFault?_eq_none_iff.2 (callable t ht)
    | valueMember callable =>
      refine List.findSome?_eq_some_iff.2 ⟨_, _, _, rfl, ?_, ?_⟩
      · exact memberFault?_eq_some_iff.2 (.inr ⟨_, rfl, rfl⟩)
      · exact fun t ht => memberFault?_eq_none_iff.2 (callable t ht)
    | unknownSignature missing =>
      exact h.signatureFault?_eq_some_iff.2 (.inl ⟨_, rfl, missing, rfl⟩)
    | otherSignature known other named =>
      exact h.signatureFault?_eq_some_iff.2 (.inr ⟨known, other, _, named, rfl⟩)

theorem WellFormed.fault?_eq_none_iff {a : Arena} (h : a.WellFormed) {node : Node} :
    a.fault? node = none ↔ ∀ e, ¬ a.FirstFault node e := by
  rw [Option.eq_none_iff_forall_ne_some]
  exact forall_congr' fun e => not_congr h.fault?_eq_some_iff

/-! ### Which handles are given out again -/

/-- After a compound type has been added, an arena has built what it had built before, and the
added compound type if it is built once. -/
theorem hasBuilt_withNode {a : Arena} {added node : Node} {handle : Handle} :
    (a.withNode added).HasBuilt node handle ↔
      a.HasBuilt node handle ∨
        (node = .foreign ∨ node = .fround) ∧ added = node ∧ handle = a.nextHandle := by
  constructor
  · rintro ⟨once, position, stands, rfl⟩
    rw [nodes_withNode, Array.getElem?_push] at stands
    split at stands
    · rename_i last
      subst last
      exact .inr ⟨once, Option.some.inj stands, rfl⟩
    · exact .inl ⟨once, position, stands, rfl⟩
  · rintro (⟨once, position, stands, rfl⟩ | ⟨once, rfl, rfl⟩)
    · obtain ⟨bound, -⟩ := Array.getElem?_eq_some_iff.1 stands
      refine ⟨once, position, ?_, rfl⟩
      rw [nodes_withNode, Array.getElem?_push, if_neg (Nat.ne_of_lt bound)]
      exact stands
    · refine ⟨once, a.nodes.size, ?_, rfl⟩
      rw [nodes_withNode, Array.getElem?_push, if_pos rfl]

/-- After a compound type has been added, an arena remembers its handle if it is built once. -/
theorem remembered?_withNode (a : Arena) (added : Node) {node : Node}
    (once : node = .foreign ∨ node = .fround) :
    (a.withNode added).remembered? node =
      if added = node then some a.nextHandle else a.remembered? node := by
  rcases once with rfl | rfl <;> rfl

/-- What an arena remembers is what it has built once. -/
theorem Reachable.remembered?_eq_some_iff {a : Arena} (h : a.Reachable) :
    ∀ node handle, a.remembered? node = some handle ↔ a.HasBuilt node handle := by
  refine Reachable.invariant
    (P := fun a => ∀ node handle, a.remembered? node = some handle ↔ a.HasBuilt node handle)
    ?_ ?_ h
  · intro id settings node handle
    cases node <;> simp [remembered?, HasBuilt, Arena.empty]
  · intro a added known new _ _ node handle
    by_cases once : node = .foreign ∨ node = .fround
    · rw [hasBuilt_withNode, remembered?_withNode a added once, ← known node handle]
      by_cases same : added = node
      · subst same
        simp [new, once, eq_comm]
      · simp [same]
    · have unlike : ∀ b : Arena, b.remembered? node = none := by
        intro b
        cases node <;> simp_all [remembered?]
      simp [unlike, HasBuilt, once]

/-! ### What comes of a request -/

theorem reachedLimit?_eq_some_iff {a : Arena} {limit : UInt64} :
    a.reachedLimit? = some limit ↔ a.settings.limit = some limit ∧ limit.toNat ≤ a.size := by
  unfold reachedLimit?
  split
  · rename_i other hother
    rw [hother]
    split <;> grind
  · rename_i unlimited
    simp [unlimited]

theorem reachedLimit?_eq_none_iff {a : Arena} :
    a.reachedLimit? = none ↔ ∀ limit, a.settings.limit = some limit → a.size < limit.toNat := by
  rw [Option.eq_none_iff_forall_ne_some]
  refine forall_congr' fun limit => ?_
  rw [ne_eq, reachedLimit?_eq_some_iff, not_and, Nat.not_le]

/-- A compound type that is built once has no parts to be at fault. -/
theorem fault?_eq_none_of_remembered {a : Arena} {node : Node} {handle : Handle}
    (old : a.remembered? node = some handle) : a.fault? node = none := by
  cases node with
  | foreign => rfl
  | fround => rfl
  | _ => cases old

/-- A request is refused for a fault, or, if it needs room, for the limit. -/
theorem build_eq_error_iff {a : Arena} {node : Node} {e : BuildError} :
    (a.build node).1 = .error e ↔
      a.fault? node = some e ∨ a.remembered? node = none ∧ a.fault? node = none ∧
        ∃ limit, a.reachedLimit? = some limit ∧ e = .limitExceeded limit := by
  have outcome := outcome_build a node
  generalize a.build node = result at outcome ⊢
  cases outcome with
  | known old => simp [old, fault?_eq_none_of_remembered old]
  | faulty new fault => simp [fault]
  | full new sound reached => simp [new, sound, reached, eq_comm]
  | added new sound room => simp [sound, room]

/-- A request is granted with the handle that is remembered, or, if it needs room and there is
room, with the next one. -/
theorem build_eq_ok_iff {a : Arena} {node : Node} {handle : Handle} :
    (a.build node).1 = .ok handle ↔
      a.remembered? node = some handle ∨ a.remembered? node = none ∧ a.fault? node = none ∧
        a.reachedLimit? = none ∧ handle = a.nextHandle := by
  have outcome := outcome_build a node
  generalize a.build node = result at outcome ⊢
  cases outcome with
  | known old => simp [old]
  | faulty new fault => simp [new, fault]
  | full new sound reached => simp [new, reached]
  | added new sound room => simp [new, sound, room, eq_comm]

/-- A request needs room if nothing is remembered and no fault is found. -/
theorem Reachable.needsRoom_iff {a : Arena} (h : a.Reachable) {node : Node} :
    a.NeedsRoom node ↔ a.remembered? node = none ∧ a.fault? node = none := by
  rw [NeedsRoom, h.wellFormed.fault?_eq_none_iff, Option.eq_none_iff_forall_ne_some, and_comm]
  exact and_congr_left' (forall_congr' fun handle =>
    not_congr (h.remembered?_eq_some_iff node handle).symm)

/-- In an arena that requests can lead to, each request has exactly one outcome.

It is refused for the first fault of its parts, whatever the limit, and otherwise only for the
limit: if it needs room, a limit is set and the arena has reached it. It is granted in all other
cases: with the handle given out before for the foreign and the rounding function, again whatever
the limit, and then nothing changes; and with the handle of the next position for a compound type
that is added. An addition makes the arena larger by one, and nothing else changes it. A finished
draft is a request for the compound type with the parts of the draft in order. -/
theorem Reachable.verdict_exact {a : Arena} (h : a.Reachable) (node : Node) :
    (∀ e, (a.build node).1 = .error e ↔
      a.FirstFault node e ∨ a.NeedsRoom node ∧
        ∃ limit, a.settings.limit = some limit ∧ limit.toNat ≤ a.size ∧
          e = .limitExceeded limit) ∧
    (∀ handle, (a.build node).1 = .ok handle ↔
      a.HasBuilt node handle ∨ a.NeedsRoom node ∧
        (∀ limit, a.settings.limit = some limit → a.size < limit.toNat) ∧
          handle = ⟨a.id, UInt32.ofNat a.size⟩) ∧
    (∀ handle, (a.build node).1 = .ok handle →
      (a.HasBuilt node handle → (a.build node).2 = a) ∧
      (a.NeedsRoom node → (a.build node).2.nodes = a.nodes.push node ∧
        (a.build node).2.size = a.size + 1)) ∧
    (∀ e, (a.build node).1 = .error e → (a.build node).2 = a) ∧
    (∀ result params, ((Draft.ofResult result).addAll params).finish a =
      a.build (.function ⟨result, params⟩)) ∧
    ∀ members, (Draft.noOverloads.addAll members).finish a = a.build (.overloads members) := by
  refine ⟨?_, ?_, ?_, ?_, ?_, ?_⟩
  · intro e
    rw [build_eq_error_iff, h.wellFormed.fault?_eq_some_iff, h.needsRoom_iff, and_assoc]
    simp only [reachedLimit?_eq_some_iff, and_assoc]
  · intro handle
    rw [build_eq_ok_iff, h.remembered?_eq_some_iff, h.needsRoom_iff, reachedLimit?_eq_none_iff,
      and_assoc]
    rfl
  · intro handle granted
    constructor
    · intro built
      rw [build_of_known ((h.remembered?_eq_some_iff node handle).2 built)]
    · intro needs
      obtain ⟨new, sound⟩ := h.needsRoom_iff.1 needs
      rcases build_eq_ok_iff.1 granted with old | ⟨-, -, room, -⟩
      · rw [new] at old
        cases old
      · rw [build_of_room new sound room]
        exact ⟨rfl, size_withNode a node⟩
  · intro e refused
    exact eq_of_refused refused
  · intro result params
    simp [Draft.ofResult, Draft.finish, Draft.node]
  · intro members
    simp [Draft.noOverloads, Draft.finish, Draft.node]

/-- An arena with room for two compound types, and with two in it. -/
def fullSample : Arena :=
  ((Arena.empty 3 (Settings.standard.withLimit 2)).buildAll
    [.foreign, .function ⟨.prim .int, []⟩]).2

/-- A full arena still looks for faults first, and reports the value type before the handle that
follows it. It gives the foreign function out again, and refuses what it would have to add. -/
theorem verdicts_of_full_arena :
    fullSample.Reachable ∧
      (fullSample.build (.overloads [.compound ⟨3, 1⟩, .prim .int, .compound ⟨9, 9⟩])).1 =
        .error (.notCallable "int") ∧
      (fullSample.build .foreign).1 = .ok ⟨3, 0⟩ ∧
      (fullSample.build (.minMax .int .int)).1 = .error (.limitExceeded 2) := by
  have reachable : fullSample.Reachable := (Reachable.empty 3 _).buildAll _
  refine ⟨reachable, ?_, ?_, ?_⟩
  · have callable : ∀ t ∈ [Ty.compound ⟨3, 1⟩], fullSample.IsCallable t := by decide
    exact ((reachable.verdict_exact _).1 _).2 (.inl (.valueMember callable))
  · have built : fullSample.HasBuilt .foreign ⟨3, 0⟩ := ⟨.inl rfl, 0, rfl, rfl⟩
    exact ((reachable.verdict_exact _).2.1 _).2 (.inl built)
  · have needs : fullSample.NeedsRoom (.minMax .int .int) := by
      constructor
      · rintro e ⟨⟩
      · rintro handle ⟨once, -⟩
        simp at once
    exact ((reachable.verdict_exact _).1 _).2 (.inr ⟨needs, 2, rfl, by decide, rfl⟩)

end Arena

end TypedCalls
