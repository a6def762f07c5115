import TypedCalls.Proofs.Totality

/-!
# Names of overload sets

The name of a set of overloads is put together from the names of its members, and a call of the set
is put to its members. These are two walks through the arena, and they go the same way: the name
shows the alternatives of the set in the order in which a call tries them, at whatever depth they
stand. The pieces between the separators are the names of the alternatives, and an empty piece for
each set without members, which no call sees.

Main statement: the name of a type is its segments with separators between them, and the segments
that are not gaps are the alternatives, as a call tries them until one accepts.
-/

namespace TypedCalls

/-! ### Joining joined lists -/

section

variable {texts : List (List String)}

theorem flatten_ne_nil_of_filled (some : texts ≠ []) (filled : ∀ xs ∈ texts, xs ≠ []) :
    texts.flatten ≠ [] := by
  obtain ⟨xs, hxs⟩ := List.exists_mem_of_ne_nil texts some
  intro empty
  exact filled xs hxs (List.flatten_eq_nil_iff.1 empty xs hxs)

/-- Separators between joined lists are separators between all members, if no list is empty. -/
theorem overloadsText_flatten (filled : ∀ xs ∈ texts, xs ≠ []) :
    overloadsText (texts.map overloadsText) = overloadsText texts.flatten := by
  induction texts with
  | nil => rfl
  | cons xs rest ih =>
    have first : xs ≠ [] := filled xs List.mem_cons_self
    have others : ∀ ys ∈ rest, ys ≠ [] := fun ys hys => filled ys (List.mem_cons_of_mem xs hys)
    have ih := ih others
    by_cases last : rest = []
    · rw [last]
      simp [overloadsText]
    · have more : rest.flatten ≠ [] := flatten_ne_nil_of_filled last others
      unfold overloadsText at ih ⊢
      rw [List.map_cons, String.intercalate_cons_of_ne_nil (by simpa using last), ih,
        List.flatten_cons, String.intercalate_append_of_ne_nil first more]

end

namespace Arena

/-- A piece of the name of a type between separators: the name of an alternative, or nothing, for a
set of overloads without members. -/
inductive Segment where
  | leaf (handle : Handle)
  | gap
  deriving DecidableEq, Repr

/-- The alternative that a segment names. -/
def Segment.leaf? : Segment → Option Handle
  | leaf handle => some handle
  | gap => none

/-- The text of a segment. -/
def Segment.text (a : Arena) : Segment → Except QueryError String
  | leaf handle => a.name (.compound handle)
  | gap => .ok ""

/-- Lay out the segments of the name of a compound type: those of its members in order for a set of
overloads that has some, a gap for a set without, and the type itself for any other. -/
def segments? (a : Arena) : Ty → Option (List Segment)
  | .prim _ => some []
  | .compound handle =>
    match a.get? handle with
    | none => some []
    | some (.overloads members) => do
      let segments ← members.mapM fun t => a |>.segments? t
      return if members = [] then [.gap] else segments.flatten
    | some _ => some [.leaf handle]
partial_fixpoint

/-- The segments of the name of a compound type. -/
def segments (a : Arena) (t : Ty) : List Segment :=
  (a.segments? t).getD []

/-- Put a call to a type, and note the alternatives that it comes to. -/
def askNoting (a : Arena) (call : Call) : Ty → StateT (List Handle) Query Ty
  | .prim _ => pure .bottom
  | .compound handle =>
    match a.get? handle with
    | some (.overloads members) => do
      let accepted ← members.findSomeM? fun t => do
        let found ← a |>.askNoting call t
        return found.accepted?
      return accepted.getD .bottom
    | _ => do
      modify (· ++ [handle])
      a.ask call (.compound handle)
partial_fixpoint

/-- What comes of a call: its answer, and the alternatives that it was put to, in order. -/
def trial (a : Arena) (callee : Ty) (call : Call) : Except QueryError (Ty × List Handle) :=
  ((a.askNoting call callee).run []).outcome

/-- The alternatives up to the first that accepts a call, or all if none does. -/
def tried (a : Arena) (call : Call) (leaves : List Handle) : List Handle :=
  leaves.takeWhile (a.leafAnswer call · = .bottom) ++
    (leaves.find? (a.leafAnswer call · ≠ .bottom)).toList

/-! ### Segments of the shapes -/

section

variable {a : Arena} {handle : Handle}

@[simp] theorem segments?_prim (a : Arena) (p : Prim) : a.segments? (.prim p) = some [] := by
  rw [segments?]

theorem segments?_of_get?_eq_none (h : a.get? handle = none) :
    a.segments? (.compound handle) = some [] := by
  rw [segments?, h]

theorem segments?_overloads {members : List Ty} (h : a.get? handle = some (.overloads members)) :
    a.segments? (.compound handle) = (members.mapM a.segments?).map fun segments =>
      if members = [] then [.gap] else segments.flatten := by
  rw [segments?, h]
  exact Option.map_eq_bind.symm

/-- A compound type that is no set of overloads is its own only segment. -/
theorem segments?_of_not_overloads {node : Node} (h : a.get? handle = some node)
    (single : ∀ members, node ≠ .overloads members) :
    a.segments? (.compound handle) = some [.leaf handle] := by
  rw [segments?, h]
  cases node with
  | overloads members => exact absurd rfl (single members)
  | _ => rfl

/-- In a well-formed arena the segments of the name of every type can be laid out. -/
theorem WellFormed.segments?_eq_some (h : a.WellFormed) (t : Ty) :
    a.segments? t = some (a.segments t) := by
  obtain ⟨pieces, ends⟩ : ∃ pieces, a.segments? t = some pieces := by
    refine h.induction (P := fun t => ∃ pieces, a.segments? t = some pieces) ?_ ?_ ?_ t
    · intro p
      exact ⟨[], segments?_prim a p⟩
    · intro handle missing
      exact ⟨[], segments?_of_get?_eq_none missing⟩
    · intro handle node hn laid
      cases node with
      | overloads members =>
        obtain ⟨pieces, hpieces⟩ : ∃ pieces, members.mapM a.segments? = some pieces :=
          exists_mapM_eq_pure laid
        refine ⟨if members = [] then [.gap] else pieces.flatten, ?_⟩
        rw [segments?_overloads hn, hpieces]
        rfl
      | _ => exact ⟨[.leaf handle], segments?_of_not_overloads hn (by simp)⟩
  rw [segments, ends, Option.getD_some]

@[simp] theorem segments_prim (a : Arena) (p : Prim) : a.segments (.prim p) = [] := by
  rw [segments, segments?_prim]
  rfl

theorem segments_of_get?_eq_none (h : a.get? handle = none) :
    a.segments (.compound handle) = [] := by
  rw [segments, segments?_of_get?_eq_none h]
  rfl

/-- A set of overloads has the segments of its members in order, or a gap if there are none. -/
theorem WellFormed.segments_overloads (h : a.WellFormed) {members : List Ty}
    (hn : a.get? handle = some (.overloads members)) :
    a.segments (.compound handle) =
      if members = [] then [.gap] else members.flatMap a.segments := by
  have each : ∀ t ∈ members, a.segments? t = pure (a.segments t) :=
    fun t _ => h.segments?_eq_some t
  rw [segments, segments?_overloads hn, mapM_eq_pure_map each, List.flatMap_def]
  rfl

theorem segments_of_not_overloads {node : Node} (hn : a.get? handle = some node)
    (single : ∀ members, node ≠ .overloads members) :
    a.segments (.compound handle) = [.leaf handle] := by
  rw [segments, segments?_of_not_overloads hn single]
  rfl

end

/-! ### Segments and alternatives -/

variable {a : Arena}

/-- The segments that are no gaps are the alternatives, in the same order. -/
theorem WellFormed.filterMap_leaf?_segments (h : a.WellFormed) (t : Ty) :
    (a.segments t).filterMap Segment.leaf? = a.alternatives t := by
  refine h.induction (P := fun t =>
    (a.segments t).filterMap Segment.leaf? = a.alternatives t) ?_ ?_ ?_ t
  · intro p
    rw [segments_prim, alternatives_prim]
    rfl
  · intro handle missing
    rw [segments_of_get?_eq_none missing, alternatives, alternatives?_of_get?_eq_none missing]
    rfl
  · intro handle node hn ih
    cases node with
    | overloads members =>
      rw [h.segments_overloads hn, h.alternatives_overloads hn]
      split
      · rename_i none
        rw [none]
        rfl
      · rw [List.filterMap_flatMap]
        exact List.flatMap_congr ih
    | _ =>
      rw [segments_of_not_overloads hn (by simp), alternatives_of_not_overloads hn (by simp)]
      rfl

/-! ### Segments and names -/

/-- Texts spell a type: they are the texts of its segments, at least one, and with separators
between them they are its name. -/
structure SpelledBy (a : Arena) (t : Ty) (texts : List String) : Prop where
  segments : (a.segments t).mapM (Segment.text a) = .ok texts
  filled : texts ≠ []
  name : a.name t = .ok (overloadsText texts)

/-- A compound type that is no set of overloads is spelled by its name. -/
theorem spelledBy_of_not_overloads {handle : Handle} {node : Node} {text : String}
    (hn : a.get? handle = some node) (single : ∀ members, node ≠ .overloads members)
    (named : a.name (.compound handle) = .ok text) : a.SpelledBy (.compound handle) [text] := by
  refine ⟨?_, by simp, ?_⟩
  · rw [segments_of_not_overloads hn single, List.mapM_cons, Segment.text, named]
    rfl
  · rw [named]
    simp [overloadsText]

/-- Texts of the segments of types, one type after another, are the texts of all the segments. -/
theorem mapM_text_flatMap {members : List Ty} {texts : List (List String)}
    (spelled : members.Forall₂ a.SpelledBy texts) :
    (members.flatMap a.segments).mapM (Segment.text a) = .ok texts.flatten := by
  induction spelled with
  | nil => rfl
  | cons first _ ih =>
    rw [List.flatMap_cons, List.mapM_append, first.segments, ih]
    rfl

/-- A set with members is spelled by the texts that spell them, one after another. -/
theorem WellFormed.spelledBy_overloads (h : a.WellFormed) {handle : Handle} {members : List Ty}
    {texts : List (List String)} (hn : a.get? handle = some (.overloads members))
    (some : members ≠ []) (spelled : members.Forall₂ a.SpelledBy texts) :
    a.SpelledBy (.compound handle) texts.flatten := by
  have filled : ∀ xs ∈ texts, xs ≠ [] := by
    have beside : texts.Forall₂ (fun xs t => xs ≠ [] ∧ a.SpelledBy t xs) members :=
      spelled.flip.imp fun _ _ spelled => ⟨spelled.filled, spelled⟩
    exact ((List.forall₂_and_left _ _).1 beside).1
  have named : members.mapM a.name = .ok (texts.map overloadsText) := by
    rw [mapM_eq_of_forall₂ spelled fun t _ xs spelled => spelled.name]
    exact mapM_eq_pure_map fun _ _ => rfl
  refine ⟨?_, flatten_ne_nil_of_filled ?_ filled, ?_⟩
  · rw [h.segments_overloads hn, if_neg some]
    exact mapM_text_flatMap spelled
  · rw [← List.length_pos_iff, ← spelled.length_eq]
    exact List.length_pos_iff.2 some
  · rw [name_overloads hn, named, ← overloadsText_flatten filled]
    rfl

/-- Every compound type that a well-formed arena holds is spelled by texts. -/
theorem WellFormed.exists_spelledBy (h : a.WellFormed) {t : Ty} (callable : a.IsCallable t) :
    ∃ texts, a.SpelledBy t texts := by
  revert callable
  refine h.induction (P := fun t => a.IsCallable t → ∃ texts, a.SpelledBy t texts) ?_ ?_ ?_ t
  · intro p callable
    cases callable
  · intro handle missing callable
    rw [IsCallable, node?_compound, missing] at callable
    cases callable
  · intro handle node hn ih callable
    by_cases overloaded : ∃ members, node = .overloads members
    · obtain ⟨members, rfl⟩ := overloaded
      by_cases none : members = []
      · refine ⟨[""], ?_, by simp, ?_⟩
        · rw [h.segments_overloads hn, if_pos none]
          rfl
        · rw [name_overloads hn, none]
          rfl
      · have spelled : ∀ t ∈ members, ∃ texts, a.SpelledBy t texts := fun t ht =>
          ih t ht ((h.fitsAt hn).callable members rfl t ht)
        obtain ⟨texts, spelled⟩ := exists_forall₂ spelled
        exact ⟨_, h.spelledBy_overloads hn none spelled⟩
    · obtain ⟨text, named⟩ := h.exists_name (knows_of_isCallable callable)
      exact ⟨_, spelledBy_of_not_overloads hn (not_exists.1 overloaded) named⟩

/-! ### The alternatives that a call is put to -/

section

variable {call : Call} {before : List Handle}

/-- Alternatives that do not accept are all tried, and the next ones after them. -/
theorem tried_append_of_silent (silent : ∀ leaf ∈ before, a.leafAnswer call leaf = .bottom)
    (after : List Handle) : a.tried call (before ++ after) = before ++ a.tried call after := by
  have passed : before.find? (a.leafAnswer call · ≠ .bottom) = none := by
    simpa [List.find?_eq_none] using silent
  rw [tried, List.takeWhile_append_of_pos (by simpa using silent), List.find?_append, passed,
    Option.none_or, List.append_assoc]
  rfl

theorem tried_of_silent (silent : ∀ leaf ∈ before, a.leafAnswer call leaf = .bottom) :
    a.tried call before = before := by
  simpa [tried] using tried_append_of_silent silent []

theorem tried_singleton (call : Call) (leaf : Handle) : a.tried call [leaf] = [leaf] := by
  by_cases silent : a.leafAnswer call leaf = .bottom <;> simp [tried, silent]

/-- No alternative is tried after one that accepts. -/
theorem tried_append_of_accepting (accepts : ∃ leaf ∈ before, a.leafAnswer call leaf ≠ .bottom)
    (after : List Handle) : a.tried call (before ++ after) = a.tried call before := by
  obtain ⟨first, found⟩ : ∃ first, before.find? (a.leafAnswer call · ≠ .bottom) = some first := by
    rw [← Option.isSome_iff_exists, List.find?_isSome]
    simpa using accepts
  have stops : (before.takeWhile (a.leafAnswer call · = .bottom)).length ≠ before.length := by
    intro all
    obtain ⟨leaf, hleaf, accepts⟩ := accepts
    have silent : (before.takeWhile (a.leafAnswer call · = .bottom)).all
        (a.leafAnswer call · = .bottom) := List.all_takeWhile
    rw [(List.takeWhile_prefix _).eq_of_length all, List.all_eq_true] at silent
    exact accepts (by simpa using silent leaf hleaf)
  rw [tried, tried, List.takeWhile_append, if_neg stops, List.find?_append, found, Option.some_or]

end

/-- A question with an answer is that answer. -/
theorem eq_pure_of_outcome_eq_ok {α : Type} {q : Query α} {x : α} (h : q.outcome = .ok x) :
    q = pure x := by
  cases q with
  | none => cases h
  | some result => exact congrArg some h

/-- A search among members for the first that accepts goes through the alternatives of all. -/
theorem run_findSomeM?_askNoting {call : Call} {members : List Ty}
    (each : ∀ t ∈ members, ∀ notes, (a.askNoting call t).run notes =
      pure (firstAccepted ((a.alternatives t).map (a.leafAnswer call)),
        notes ++ a.tried call (a.alternatives t))) (notes : List Handle) :
    (members.findSomeM? fun t => do
      let found ← a.askNoting call t
      return found.accepted?).run notes =
      pure (((members.flatMap a.alternatives).map (a.leafAnswer call)).find? (· ≠ .bottom),
        notes ++ a.tried call (members.flatMap a.alternatives)) := by
  induction members generalizing notes with
  | nil =>
    simp [tried]
  | cons t members ih =>
    have ih := ih fun u hu => each u (List.mem_cons_of_mem t hu)
    rw [List.findSomeM?_cons, bind_assoc, StateT.run_bind, each t List.mem_cons_self, pure_bind,
      pure_bind, accepted?_firstAccepted, List.flatMap_cons, List.map_append, List.find?_append]
    cases found : ((a.alternatives t).map (a.leafAnswer call)).find? (· ≠ .bottom) with
    | none =>
      have silent : ∀ leaf ∈ a.alternatives t, a.leafAnswer call leaf = .bottom := by
        simpa [List.find?_eq_none] using found
      rw [tried_append_of_silent silent, ← List.append_assoc, tried_of_silent silent]
      exact ih _
    | some answer =>
      have accepts : ∃ leaf ∈ a.alternatives t, a.leafAnswer call leaf ≠ .bottom := by
        obtain ⟨leaf, hleaf, rfl⟩ := List.mem_map.1 (List.mem_of_find?_eq_some found)
        exact ⟨leaf, hleaf, by simpa using List.find?_some found⟩
      rw [tried_append_of_accepting accepts]
      rfl

/-- A call of a type that a well-formed arena knows is put to the alternatives in order, and to none
after the first that accepts. -/
theorem WellFormed.run_askNoting (h : a.WellFormed) {callee : Ty} (known : a.Knows callee)
    (call : Call) (notes : List Handle) :
    (a.askNoting call callee).run notes =
      pure (firstAccepted ((a.alternatives callee).map (a.leafAnswer call)),
        notes ++ a.tried call (a.alternatives callee)) := by
  revert notes
  refine h.induction_known (P := fun callee => ∀ notes, (a.askNoting call callee).run notes =
    pure (firstAccepted ((a.alternatives callee).map (a.leafAnswer call)),
      notes ++ a.tried call (a.alternatives callee))) ?_ ?_ known
  · intro p notes
    rw [askNoting, alternatives_prim]
    simp [tried, firstAccepted]
  · intro handle node hn ih notes
    cases node with
    | overloads members =>
      rw [askNoting, hn, h.alternatives_overloads hn]
      have searched := run_findSomeM?_askNoting ih notes
      simp only [StateT.run_bind]
      exact (congrArg (· >>= _) searched).trans rfl
    | _ =>
      have asked := eq_pure_of_outcome_eq_ok (h.answer_of_not_overloads hn (by simp) call)
      rw [askNoting, hn, alternatives_of_not_overloads hn (by simp), tried_singleton,
        List.map_singleton, firstAccepted_singleton]
      simp only [asked]
      rfl

/-! ### Names in reachable arenas -/

/-- In an arena that requests can lead to, the name of a compound type that the arena holds shows
the alternatives of a call in order. The name is made of segments with separators between them: one
segment for each alternative, with its name, and an empty one for each set without members. A call
is answered by the first alternative that accepts, and it is put to the alternatives in the order in
which the name shows them, up to that one. -/
theorem Reachable.name_lists_alternatives_in_order (h : a.Reachable) {handle : Handle}
    {node : Node} (hn : a.get? handle = some node) :
    ∃ segments leaves texts,
      a.segments? (.compound handle) = some segments ∧
      a.alternatives? (.compound handle) = some leaves ∧
      segments.filterMap Segment.leaf? = leaves ∧
      segments.mapM (Segment.text a) = .ok texts ∧
      a.name (.compound handle) = .ok (" /\\ ".intercalate texts) ∧
      ∀ call,
        a.answer (.compound handle) call =
          .ok (firstAccepted (leaves.map (a.leafAnswer call))) ∧
        a.trial (.compound handle) call =
          .ok (firstAccepted (leaves.map (a.leafAnswer call)), a.tried call leaves) := by
  have wf := h.wellFormed
  have callable : a.IsCallable (.compound handle) := Option.isSome_of_eq_some hn
  have known : a.Knows (.compound handle) := knows_of_isCallable callable
  obtain ⟨texts, spelled⟩ := wf.exists_spelledBy callable
  refine ⟨_, _, texts, wf.segments?_eq_some _, wf.alternatives?_eq_some _,
    wf.filterMap_leaf?_segments _, spelled.segments, spelled.name, ?_⟩
  intro call
  refine ⟨wf.answer_eq_firstAccepted known call, ?_⟩
  rw [trial, wf.run_askNoting known, List.nil_append]
  rfl

/-- A function, the rounding function, a set without members, a set of the function and that set,
and a set of these two sets and the rounding function. -/
def layered : Arena :=
  ((Arena.empty 7 .standard).buildAll
    [.function ⟨.prim .int, [.prim .double]⟩,
      .fround,
      .overloads [],
      .overloads [.compound ⟨7, 0⟩, .compound ⟨7, 2⟩],
      .overloads [.compound ⟨7, 2⟩, .compound ⟨7, 3⟩, .compound ⟨7, 1⟩]]).2

theorem segments?_layered :
    layered.segments? (.compound ⟨7, 4⟩) = some [.gap, .leaf ⟨7, 0⟩, .gap, .leaf ⟨7, 1⟩] := by
  have outer : layered.get? ⟨7, 4⟩ =
      some (.overloads [.compound ⟨7, 2⟩, .compound ⟨7, 3⟩, .compound ⟨7, 1⟩]) := rfl
  have inner : layered.get? ⟨7, 3⟩ = some (.overloads [.compound ⟨7, 0⟩, .compound ⟨7, 2⟩]) := rfl
  have none : layered.get? ⟨7, 2⟩ = some (.overloads []) := rfl
  have function : layered.get? ⟨7, 0⟩ = some (.function ⟨.prim .int, [.prim .double]⟩) := rfl
  have fround : layered.get? ⟨7, 1⟩ = some .fround := rfl
  rw [segments?_overloads outer]
  simp only [List.mapM_cons, List.mapM_nil, segments?_overloads inner, segments?_overloads none,
    segments?_of_not_overloads function (by simp), segments?_of_not_overloads fround (by simp)]
  rfl

/-- Two sets without members leave gaps in a name, before and after a function. A call of the set
passes over the gaps: it is put to the function, and then to the rounding function. -/
theorem layered_name_and_trial :
    layered.Reachable ∧
      layered.get? ⟨7, 4⟩ =
        some (.overloads [.compound ⟨7, 2⟩, .compound ⟨7, 3⟩, .compound ⟨7, 1⟩]) ∧
      layered.name (.compound ⟨7, 4⟩) = .ok " /\\ (double) -> int /\\  /\\ fround" ∧
      layered.trial (.compound ⟨7, 4⟩) ⟨.prim .int, [.prim .double]⟩ =
        .ok (.prim .int, [⟨7, 0⟩]) ∧
      layered.trial (.compound ⟨7, 4⟩) ⟨.prim .float, [.prim .double]⟩ =
        .ok (.prim .float, [⟨7, 0⟩, ⟨7, 1⟩]) := by
  have reachable : layered.Reachable := (Reachable.empty 7 _).buildAll _
  have held : layered.get? ⟨7, 4⟩ =
      some (.overloads [.compound ⟨7, 2⟩, .compound ⟨7, 3⟩, .compound ⟨7, 1⟩]) := rfl
  obtain ⟨segments, leaves, texts, hsegments, -, hleaves, htexts, named, calls⟩ :=
    reachable.name_lists_alternatives_in_order held
  obtain rfl := Option.some.inj (segments?_layered.symm.trans hsegments)
  subst hleaves
  have function : layered.name (.compound ⟨7, 0⟩) = .ok "(double) -> int" := by
    rw [name_function (s := ⟨.prim .int, [.prim .double]⟩) rfl, List.mapM_cons, name_prim,
      name_prim]
    rfl
  have fround : layered.name (.compound ⟨7, 1⟩) = .ok "fround" := name_fround rfl
  simp only [List.mapM_cons, Segment.text, function, fround] at htexts
  obtain rfl := Except.ok.inj htexts
  exact ⟨reachable, held, named.trans rfl, (calls _).2.trans rfl, (calls _).2.trans rfl⟩

end Arena

end TypedCalls
