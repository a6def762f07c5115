import Mathlib.Data.List.Induction
import TypedCalls.Proofs.Numbering
import TypedCalls.Proofs.Verdict

/-!
# Handles of different types

A handle names the place of a compound type: the number of its arena, and its position there. Both
are 32-bit words, and nothing keeps the counters behind them from wrapping around. So there are
histories in which a type is added under a handle that another type has already.

Main statements: which handles a history has given out, and in exactly which histories no type is
added under a handle that was given out before.
-/

namespace TypedCalls

namespace Arena

variable {a : Arena} {node : Node}

/-- A request leaves the positions that are taken, and takes the next one if it adds a type. -/
theorem lt_size_build_iff {position : Nat} :
    position < (a.build node).2.size ↔ position < a.size ∨ a.size = position ∧
      ∃ handle, (a.build node).1 = .ok handle ∧ (a.build node).2.size = a.size + 1 := by
  have outcome := outcome_build a node
  generalize a.build node = result at outcome ⊢
  cases outcome with
  | added =>
    simp only [size_withNode, Except.ok.injEq, exists_eq', and_true]
    omega
  | _ => simp

/-- The handle that a request is granted with names a position that is taken after it. -/
theorem Reachable.exists_position_of_build (h : a.Reachable) {handle : Handle}
    (granted : (a.build node).1 = .ok handle) :
    ∃ position, position < (a.build node).2.size ∧ handle = ⟨a.id, UInt32.ofNat position⟩ := by
  rcases build_eq_ok_iff.1 granted with old | ⟨new, sound, room, rfl⟩
  · obtain ⟨-, position, stands, rfl⟩ := (h.remembered?_eq_some_iff node handle).1 old
    rw [build_of_known old]
    exact ⟨position, (Array.getElem?_eq_some_iff.1 stands).1, rfl⟩
  · rw [build_of_room new sound room]
    exact ⟨a.size, by simp, rfl⟩

end Arena

namespace Pool

/-- A pool holds a compound type at a position of an arena. -/
def Holds (p : Pool) (i position : Nat) : Prop :=
  ∃ a, p.arenas[i]? = some a ∧ position < a.size

/-- The handle of a position of an arena. -/
def handleOf (i position : Nat) : Handle :=
  ⟨UInt32.ofNat i, UInt32.ofNat position⟩

/-- A request to an arena is granted with a handle, and adds a compound type at a position. -/
def Adds (p : Pool) (i : Nat) (node : Node) (position : Nat) (handle : Handle) : Prop :=
  ∃ a, p.arenas[i]? = some a ∧ a.size = position ∧
    (a.build node).1 = .ok handle ∧ (a.build node).2.size = a.size + 1

/-- In a history that starts without arenas, no compound type is added under a handle that any arena
has given out before. -/
def NeverAliases (events : List Event) : Prop :=
  ∀ before i node after, events = before ++ .build i node :: after →
    ∀ position handle, (empty.applyAll before).Adds i node position handle →
      ∀ j, ¬ Issued before j handle

/-- The compound types of a pool have different handles. -/
def Separate (p : Pool) : Prop :=
  ∀ i position j other, p.Holds i position → p.Holds j other →
    handleOf i position = handleOf j other → i = j ∧ position = other

/-! ### What an event adds -/

section

variable {p : Pool} {i j position : Nat} {node : Node} {handle : Handle} {a : Arena}

/-- A request changes no arena but the one that it goes to. -/
theorem build_of_arena (ha : p.arenas[i]? = some a) (node : Node) :
    (p.build i node).1 = some (a.build node).1 ∧
      ∀ j, (p.build i node).2.arenas[j]? =
        if i = j then some (a.build node).2 else p.arenas[j]? := by
  obtain ⟨bound, -⟩ := Array.getElem?_eq_some_iff.1 ha
  simp only [Pool.build, ha, setArena, Array.getElem?_setIfInBounds, if_pos bound, true_and,
    implies_true]

/-- A new arena holds nothing. -/
theorem holds_newArena {settings : Settings} :
    (p.newArena settings).Holds i position ↔ p.Holds i position := by
  unfold Holds
  simp only [Pool.newArena, Array.getElem?_push]
  split
  · rename_i last
    simp [last]
  · rfl

/-- After a request, a pool holds what it held before, and the type that the request adds. -/
theorem holds_build :
    (p.build i node).2.Holds j position ↔
      p.Holds j position ∨ i = j ∧ ∃ handle, p.Adds i node position handle := by
  cases ha : p.arenas[i]? with
  | none => simp [Pool.build, Adds, ha]
  | some a =>
    unfold Holds
    rw [(build_of_arena ha node).2]
    by_cases same : i = j
    · subst same
      simp [Adds, ha, Arena.lt_size_build_iff]
    · simp [same]

/-- A type is added under the handle of its position. -/
theorem Numbered.handle_of_adds (h : p.Numbered) (added : p.Adds i node position handle) :
    handle = handleOf i position := by
  obtain ⟨a, ha, rfl, granted, grows⟩ := added
  obtain ⟨number, -⟩ := h.held i a ha
  rcases Arena.build_eq_ok_iff.1 granted with old | ⟨-, -, -, rfl⟩
  · rw [Arena.build_of_known old] at grows
    exact absurd grows (Nat.ne_of_lt (Nat.lt_succ_self a.size))
  · rw [Arena.nextHandle, number]
    rfl

/-- The position at which a type is added was not taken before. -/
theorem not_holds_of_adds (added : p.Adds i node position handle) : ¬ p.Holds i position := by
  obtain ⟨a, ha, rfl, -⟩ := added
  rintro ⟨b, hb, taken⟩
  rw [ha] at hb
  obtain rfl := Option.some.inj hb
  exact Nat.lt_irrefl _ taken

/-- A request adds one type. -/
theorem position_unique_of_adds {other : Nat} {second : Handle}
    (added : p.Adds i node position handle) (again : p.Adds i node other second) :
    position = other := by
  obtain ⟨a, ha, rfl, -⟩ := added
  obtain ⟨b, hb, rfl, -⟩ := again
  rw [ha] at hb
  rw [Option.some.inj hb]

/-- A request that adds a type is granted with its handle. -/
theorem granted_of_adds (added : p.Adds i node position handle) :
    (p.build i node).1 = some (.ok handle) := by
  obtain ⟨a, ha, -, granted, -⟩ := added
  rw [(build_of_arena ha node).1, granted]

/-- A handle that a request is granted with is that of a type that the pool holds after it. -/
theorem Numbered.exists_position_of_granted (h : p.Numbered)
    (granted : (p.build i node).1 = some (.ok handle)) :
    ∃ position, (p.build i node).2.Holds i position ∧ handle = handleOf i position := by
  cases ha : p.arenas[i]? with
  | none => simp [Pool.build, ha] at granted
  | some a =>
    obtain ⟨number, reachable⟩ := h.held i a ha
    obtain ⟨answer, after⟩ := build_of_arena ha node
    rw [answer] at granted
    obtain ⟨position, taken, rfl⟩ :=
      reachable.exists_position_of_build (Option.some.inj granted)
    refine ⟨position, ⟨_, ?_, taken⟩, ?_⟩
    · rw [after, if_pos rfl]
    · rw [number]
      rfl

end

/-! ### Which handles have been given out -/

/-- An event of a history that is longer by one is the last event, or an event of the history. -/
theorem concat_eq_append_cons_iff {events before after : List Event} {last event : Event} :
    events ++ [last] = before ++ event :: after ↔
      (before = events ∧ event = last ∧ after = []) ∨
        ∃ rest, after = rest ++ [last] ∧ events = before ++ event :: rest := by
  constructor
  · intro same
    rcases List.eq_nil_or_concat after with rfl | ⟨rest, final, rfl⟩
    · obtain ⟨rfl, final⟩ := List.append_inj' same rfl
      exact .inl ⟨rfl, (List.cons.inj final).1.symm, rfl⟩
    · rw [List.concat_eq_append] at same ⊢
      rw [← List.cons_append, ← List.append_assoc] at same
      obtain ⟨rfl, final⟩ := List.append_inj' same rfl
      obtain rfl := (List.cons.inj final).1
      exact .inr ⟨rest, rfl, rfl⟩
  · rintro (⟨rfl, rfl, rfl⟩ | ⟨rest, rfl, rfl⟩)
    · rfl
    · simp

section

variable {events : List Event} {event : Event} {i : Nat} {handle : Handle}

/-- One more event gives out the handle that it is answered with. -/
theorem issued_concat_iff :
    Issued (events ++ [event]) i handle ↔ Issued events i handle ∨
      ∃ node, event = .build i node ∧
        ((empty.applyAll events).build i node).1 = some (.ok handle) := by
  constructor
  · rintro ⟨before, node, after, split, answered⟩
    rcases concat_eq_append_cons_iff.1 split with ⟨rfl, rfl, -⟩ | ⟨rest, -, rfl⟩
    · exact .inr ⟨node, rfl, answered⟩
    · exact .inl ⟨before, node, rest, rfl, answered⟩
  · rintro (⟨before, node, after, rfl, answered⟩ | ⟨node, rfl, answered⟩)
    · exact ⟨before, node, after ++ [event], by simp, answered⟩
    · exact ⟨events, node, [], rfl, answered⟩

/-- One more event may add one more type. -/
theorem neverAliases_concat_iff :
    NeverAliases (events ++ [event]) ↔ NeverAliases events ∧
      ∀ i node, event = .build i node → ∀ position handle,
        (empty.applyAll events).Adds i node position handle → ∀ j, ¬ Issued events j handle := by
  constructor
  · intro never
    constructor
    · rintro before i node after rfl
      exact never before i node (after ++ [event]) (by simp)
    · rintro i node rfl
      exact never events i node [] rfl
  · rintro ⟨earlier, last⟩ before i node after split
    rcases concat_eq_append_cons_iff.1 split with ⟨rfl, rfl, -⟩ | ⟨rest, -, rfl⟩
    · exact last i node rfl
    · exact earlier before i node rest rfl

/-- The handles that an arena has given out are those of the types that it holds. -/
theorem issued_iff :
    Issued events i handle ↔
      ∃ position, (empty.applyAll events).Holds i position ∧ handle = handleOf i position := by
  induction events using List.reverseRecOn generalizing i handle with
  | nil => simp [Issued, Holds, empty]
  | append_singleton events event ih =>
    have numbered : (empty.applyAll events).Numbered := numbered_empty.applyAll events
    rw [issued_concat_iff, applyAll_append, ih]
    cases event with
    | newArena settings => simp [apply, holds_newArena]
    | build k node =>
      change _ ↔ ∃ position, ((empty.applyAll events).build k node).2.Holds i position ∧ _
      constructor
      · rintro (⟨position, held, rfl⟩ | ⟨node, same, granted⟩)
        · exact ⟨position, holds_build.2 (.inl held), rfl⟩
        · cases same
          exact numbered.exists_position_of_granted granted
      · rintro ⟨position, held, rfl⟩
        rcases holds_build.1 held with held | ⟨rfl, handle, added⟩
        · exact .inl ⟨position, held, rfl⟩
        · obtain rfl := numbered.handle_of_adds added
          exact .inr ⟨node, rfl, granted_of_adds added⟩

end

/-! ### When handles stay apart -/

/-- A request keeps the types of a pool apart if it gives no handle of theirs to the type that it
adds. -/
theorem Numbered.separate_build_iff {p : Pool} (h : p.Numbered) {i : Nat} {node : Node} :
    (p.build i node).2.Separate ↔ p.Separate ∧ ∀ position handle,
      p.Adds i node position handle → ∀ j other, p.Holds j other → handle ≠ handleOf j other := by
  constructor
  · intro separate
    constructor
    · intro k position j other held also
      exact separate k position j other (holds_build.2 (.inl held)) (holds_build.2 (.inl also))
    · intro position handle added j other held same
      obtain rfl := h.handle_of_adds added
      obtain ⟨rfl, rfl⟩ := separate i position j other (holds_build.2 (.inr ⟨rfl, _, added⟩))
        (holds_build.2 (.inl held)) same
      exact not_holds_of_adds added held
  · rintro ⟨separate, fresh⟩ k position j other held also same
    rcases holds_build.1 held with old | ⟨rfl, _, added⟩
    · rcases holds_build.1 also with older | ⟨rfl, _, added⟩
      · exact separate k position j other old older same
      · have given := (h.handle_of_adds added).trans same.symm
        exact absurd given (fresh _ _ added k position old)
    · rcases holds_build.1 also with older | ⟨rfl, _, again⟩
      · have given := (h.handle_of_adds added).trans same
        exact absurd given (fresh _ _ added j other older)
      · exact ⟨rfl, position_unique_of_adds added again⟩

/-- A history never gives out a handle for a second type if the types that it leads to have
different handles. -/
theorem neverAliases_iff_separate {events : List Event} :
    NeverAliases events ↔ (empty.applyAll events).Separate := by
  induction events using List.reverseRecOn with
  | nil => simp [NeverAliases, Separate, Holds, empty]
  | append_singleton events event ih =>
    have numbered : (empty.applyAll events).Numbered := numbered_empty.applyAll events
    rw [neverAliases_concat_iff, applyAll_append, ih]
    cases event with
    | newArena settings => simp [apply, Separate, holds_newArena]
    | build k node =>
      change _ ↔ ((empty.applyAll events).build k node).2.Separate
      rw [numbered.separate_build_iff]
      refine and_congr_right fun _ => ?_
      constructor
      · intro fresh position handle added j other held same
        exact fresh k node rfl position handle added j (issued_iff.2 ⟨other, held, same⟩)
      · rintro fresh i node ⟨⟩ position handle added j issued
        obtain ⟨other, held, same⟩ := issued_iff.1 issued
        exact fresh position handle added j other held same

/-- The types of a pool have different handles exactly if no arena holds more types than there are
32-bit words, and no two arenas with the same word for a number hold any. -/
theorem separate_iff {p : Pool} :
    p.Separate ↔ (∀ (i : Nat) a, p.arenas[i]? = some a → a.size ≤ UInt32.size) ∧
      ∀ i j, p.Holds i 0 → p.Holds j 0 → i % UInt32.size = j % UInt32.size → i = j := by
  constructor
  · intro separate
    constructor
    · intro i a ha
      by_contra more
      have last : p.Holds i UInt32.size := ⟨a, ha, Nat.lt_of_not_le more⟩
      have first : p.Holds i 0 := ⟨a, ha, by omega⟩
      have wrapped : UInt32.ofNat 0 = UInt32.ofNat UInt32.size := rfl
      obtain ⟨-, zero⟩ := separate i 0 i UInt32.size first last
        (congrArg (Handle.mk (UInt32.ofNat i)) wrapped)
      cases zero
    · intro i j first also numbers
      exact (separate i 0 j 0 first also
        (congrArg (Handle.mk · 0) (ofNat_eq_ofNat_iff.2 numbers))).1
  · rintro ⟨small, numbered⟩ i position j other ⟨a, ha, taken⟩ ⟨b, hb, also⟩ same
    obtain ⟨numbers, positions⟩ := Handle.mk.inj same
    have first : p.Holds i 0 := ⟨a, ha, Nat.zero_lt_of_lt taken⟩
    have second : p.Holds j 0 := ⟨b, hb, Nat.zero_lt_of_lt also⟩
    obtain rfl := numbered i j first second (ofNat_eq_ofNat_iff.1 numbers)
    have positions := ofNat_eq_ofNat_iff.1 positions
    rw [Nat.mod_eq_of_lt (Nat.lt_of_lt_of_le taken (small i a ha)),
      Nat.mod_eq_of_lt (Nat.lt_of_lt_of_le also (small i b hb))] at positions
    exact ⟨rfl, positions⟩

/-! ### Histories past the last word -/

/-- What comes of a number of new arenas. -/
theorem applyAll_replicate_newArena (settings : Settings) (n : Nat) :
    empty.applyAll (List.replicate n (.newArena settings)) =
      ⟨UInt32.ofNat n, (Array.range n).map fun i => .empty (UInt32.ofNat i) settings⟩ := by
  induction n with
  | zero => simp [empty]
  | succ n ih =>
    rw [List.replicate_succ', applyAll_append, ih]
    simp [apply, newArena, Array.range_succ, UInt32.ofNat_add]

/-- The first arena, with a number of compound types of one kind. -/
def filled (n : Nat) : Arena :=
  ⟨0, .standard, .replicate n (.minMax .int .int), none, none⟩

theorem size_filled (n : Nat) : (filled n).size = n :=
  Array.size_replicate

/-- The arena has no limit, so it grants each request that has no parts. -/
theorem build_filled (n : Nat) (bound result : Prim) :
    (filled n).build (.minMax bound result) =
      (.ok (handleOf 0 n), (filled n).withNode (.minMax bound result)) := by
  have next : (filled n).nextHandle = handleOf 0 n := by
    rw [Arena.nextHandle, size_filled]
    rfl
  rw [Arena.build_of_room rfl rfl rfl, next]

/-- What comes of a number of requests to the first arena. -/
theorem applyAll_replicate_build (n : Nat) :
    empty.applyAll (.newArena .standard :: List.replicate n (.build 0 (.minMax .int .int))) =
      ⟨1, #[filled n]⟩ := by
  induction n with
  | zero => rfl
  | succ n ih =>
    have grown : (filled n).withNode (.minMax .int .int) = filled (n + 1) := by
      simp [filled, Arena.withNode, Array.replicate_succ]
    rw [List.replicate_succ', ← List.cons_append, applyAll_append, ih]
    simp [apply, Pool.build, setArena, build_filled, grown]

/-- What the first and the last of several arenas add first gets the handles of their first
positions. -/
theorem adds_in_last_arena {n : Nat} (several : 0 < n) :
    let before := List.replicate (n + 1) (.newArena .standard) ++ [.build 0 .foreign]
    Issued before 0 (handleOf 0 0) ∧
      (empty.applyAll before).Adds n .fround 0 (handleOf n 0) := by
  intro before
  have arenas : ∀ i, i ≤ n →
      (empty.applyAll (List.replicate (n + 1) (.newArena .standard))).arenas[i]? =
        some (.empty (UInt32.ofNat i) .standard) := by
    intro i bound
    rw [applyAll_replicate_newArena, Array.getElem?_map, Array.getElem?_range,
      if_pos (Nat.lt_succ_of_le bound), Option.map_some]
  obtain ⟨answer, after⟩ := build_of_arena (arenas 0 (Nat.zero_le n)) .foreign
  constructor
  · exact ⟨_, .foreign, [], rfl, answer⟩
  · refine ⟨.empty (UInt32.ofNat n) .standard, ?_, rfl, rfl, rfl⟩
    have last := after n
    rw [if_neg (Nat.ne_of_lt several), arenas n (Nat.le_refl n)] at last
    rw [applyAll_append]
    exact last

/-- What an arena adds first and what it adds after several types gets the handles of their
positions. -/
theorem adds_at_last_position {n : Nat} (several : 0 < n) :
    let before := .newArena .standard :: List.replicate n (.build 0 (.minMax .int .int))
    Issued before 0 (handleOf 0 0) ∧
      (empty.applyAll before).Adds 0 (.minMax .double .double) n (handleOf 0 n) := by
  intro before
  have state := applyAll_replicate_build n
  have first : (⟨1, #[filled n]⟩ : Pool).arenas[0]? = some (filled n) := rfl
  constructor
  · refine issued_iff.2 ⟨0, ?_, rfl⟩
    rw [state]
    exact ⟨filled n, first, by rwa [size_filled]⟩
  · rw [state]
    refine ⟨filled n, first, size_filled n, ?_, ?_⟩
    · rw [build_filled]
    · rw [build_filled, Arena.size_withNode]

/-! ### Histories without and with aliases -/

/-- Let arenas be made and asked in any order, with any settings and any requests. No type is ever
added under a handle that any arena has given out before if and only if, in the end, no arena holds
more than 2^32 types, and of the arenas whose numbers agree up to multiples of 2^32 no two hold any
type at all. -/
theorem neverAliases_iff (events : List Event) :
    NeverAliases events ↔
      (∀ (i : Nat) a, (empty.applyAll events).arenas[i]? = some a → a.size ≤ UInt32.size) ∧
        ∀ i j, (empty.applyAll events).Holds i 0 → (empty.applyAll events).Holds j 0 →
          i % UInt32.size = j % UInt32.size → i = j :=
  neverAliases_iff_separate.trans separate_iff

/-- The number of an arena wraps around, and so does a position: after 2^32 arenas, and after 2^32
types of one arena, a type is added under the handle that was given out first. -/
theorem handle_given_out_again :
    ¬ NeverAliases (List.replicate (UInt32.size + 1) (.newArena .standard) ++
      [.build 0 .foreign, .build UInt32.size .fround]) ∧
    ¬ NeverAliases (.newArena .standard ::
      List.replicate UInt32.size (.build 0 (.minMax .int .int)) ++
        [.build 0 (.minMax .double .double)]) := by
  have several : 0 < UInt32.size := by decide
  have number : handleOf UInt32.size 0 = handleOf 0 0 := rfl
  have position : handleOf 0 UInt32.size = handleOf 0 0 := rfl
  constructor
  · intro never
    obtain ⟨issued, added⟩ := adds_in_last_arena several
    rw [number] at added
    exact never _ _ _ [] (by simp) _ _ added 0 issued
  · intro never
    obtain ⟨issued, added⟩ := adds_at_last_position several
    rw [position] at added
    exact never _ _ _ [] rfl _ _ added 0 issued

end Pool

end TypedCalls
