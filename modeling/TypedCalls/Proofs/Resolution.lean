import TypedCalls.Arena.Alternatives
import TypedCalls.Proofs.Structure
import TypedCalls.Proofs.Traversal

/-!
# Resolution of calls

A call of a set of overloads is put to its members, and from them to theirs. In a well-formed arena
this is the same as to lay out all alternatives first and to put the call to one after another: the
first answer that accepts counts, at whatever depth the alternative was found.

Main statements: the alternatives of a type can be laid out, and a call is answered by the first of
them that accepts.
-/

namespace TypedCalls

/-! ### The first answer that accepts -/

/-- The first answer that accepts, or `bottom` if there is none. -/
def firstAccepted (answers : List Ty) : Ty :=
  (answers.find? (· ≠ .bottom)).getD .bottom

/-- What the first accepting answer accepts is that answer. -/
theorem accepted?_firstAccepted (answers : List Ty) :
    (firstAccepted answers).accepted? = answers.find? (· ≠ .bottom) := by
  unfold firstAccepted Ty.accepted?
  cases h : answers.find? (· ≠ .bottom) with
  | none => exact if_pos rfl
  | some t =>
    have accepts : t ≠ .bottom := by simpa using List.find?_some h
    exact if_neg accepts

@[simp] theorem firstAccepted_singleton (t : Ty) : firstAccepted [t] = t := by
  by_cases h : t = .bottom
  · rw [h]
    rfl
  · simp [firstAccepted, h]

/-- The first accepting answer is `bottom` exactly if all answers are. -/
theorem firstAccepted_eq_bottom_iff {answers : List Ty} :
    firstAccepted answers = .bottom ↔ ∀ t ∈ answers, t = .bottom := by
  unfold firstAccepted
  cases found : answers.find? (· ≠ .bottom) with
  | none => simpa using found
  | some t =>
    have accepts : t ≠ .bottom := by simpa using List.find?_some found
    refine iff_of_false accepts fun silent => ?_
    exact accepts (silent t (List.mem_of_find?_eq_some found))

/-- An accepting answer is one of the answers. -/
theorem firstAccepted_mem {answers : List Ty} (accepts : firstAccepted answers ≠ .bottom) :
    firstAccepted answers ∈ answers := by
  unfold firstAccepted at accepts ⊢
  cases found : answers.find? (· ≠ .bottom) with
  | none =>
    rw [found] at accepts
    exact absurd rfl accepts
  | some t => exact List.mem_of_find?_eq_some found

/-- With an answer that is not `bottom` in the list, the first accepting one is that answer or one
before it. -/
theorem firstAccepted_append_cons (before after : List Ty) {t : Ty} (ht : t ≠ .bottom) :
    firstAccepted (before ++ t :: after) = (before.find? (· ≠ .bottom)).getD t := by
  have found : (t :: after).find? (· ≠ .bottom) = some t :=
    List.find?_cons_of_pos (by simpa using ht)
  rw [firstAccepted, List.find?_append, found]
  cases before.find? (· ≠ .bottom) with
  | none => rfl
  | some u => rfl

/-! ### Answers of single alternatives -/

/-- A signature answers the call that is equal to it, with its result. -/
def Signature.exactAnswer (s : Signature) (call : Call) : Ty :=
  if s.result = call.wanted ∧ s.params = call.args then s.result else .bottom

/-- Comparing lengths and then parameters with arguments one by one is comparing the lists. -/
theorem Signature.answer_eq_exactAnswer (s : Signature) (call : Call) :
    s.answer call = s.exactAnswer call := by
  have lists : s.params = call.args ↔
      s.params.length = call.args.length ∧ ∀ pair ∈ s.params.zip call.args, pair.1 = pair.2 := by
    rw [← List.forall₂_eq_eq_eq, List.forall₂_iff_zip]
    simp only [Prod.forall]
  unfold answer exactAnswer
  by_cases result : s.result = call.wanted
  · by_cases length : s.params.length = call.args.length
    · simp only [lists, result, length, ne_eq, not_true, or_self, if_false, true_and]
    · have differ : s.params ≠ call.args := fun same => length (lists.1 same).1
      rw [if_pos (Or.inr length), if_neg fun same => differ same.2]
  · rw [if_pos (Or.inl result), if_neg fun same => result same.1]

namespace Arena

/-- The answer of an alternative. A function, and a table by its signature, takes the call that is
equal to its signature. A minimum or maximum takes at least two arguments below its bound and
returns its result. A foreign function returns a void, double or signed value if all arguments are
double, signed or fixnum. The rounding function returns a float for one argument at or below one of
four types. -/
def leafAnswer (a : Arena) (call : Call) (leaf : Handle) : Ty :=
  match a.get? leaf with
  | some (.function s) => s.exactAnswer call
  | some (.table _ signature) =>
    match a.function? signature with
    | some s => s.exactAnswer call
    | none => .bottom
  | some (.minMax bound result) =>
    if call.wanted = .prim result ∧ 2 ≤ call.args.length ∧
        ∀ t ∈ call.args, t.IsSubtype (.prim bound) then
      .prim result
    else
      .bottom
  | some .foreign =>
    if call.wanted ∈ [.prim .void, .prim .double, .prim .signed] ∧
        ∀ t ∈ call.args, t ∈ [.prim .double, .prim .signed, Ty.prim .fixnum] then
      call.wanted
    else
      .bottom
  | some .fround =>
    if call.args.length = 1 ∧ ∀ t ∈ call.args,
        t.IsSubtype (.prim .floatish) ∨ t.IsSubtype (.prim .maybeDouble) ∨
          t.IsSubtype (.prim .signed) ∨ t.IsSubtype (.prim .unsigned) then
      .prim .float
    else
      .bottom
  | some (.overloads _) | none => .bottom

end Arena

/-- To be among listed value types is to be equal to one of them. -/
theorem Ty.isAmong_iff_mem_map {ps : List Prim} {t : Ty} :
    t.IsAmong ps ↔ t ∈ ps.map .prim := by
  cases t with
  | prim p => simp
  | compound handle => simp

theorem foreignAnswer_eq (call : Call) :
    foreignAnswer call =
      if call.wanted ∈ [.prim .void, .prim .double, .prim .signed] ∧
          ∀ t ∈ call.args, t ∈ [.prim .double, .prim .signed, Ty.prim .fixnum] then
        call.wanted
      else
        .bottom := by
  unfold foreignAnswer
  simp only [Ty.isAmong_iff_mem_map]
  rfl

theorem froundAnswer_eq (call : Call) :
    froundAnswer call =
      if call.args.length = 1 ∧ ∀ t ∈ call.args,
          t.IsSubtype (.prim .floatish) ∨ t.IsSubtype (.prim .maybeDouble) ∨
            t.IsSubtype (.prim .signed) ∨ t.IsSubtype (.prim .unsigned) then
        .prim .float
      else
        .bottom := by
  unfold froundAnswer froundBounds
  match call.args with
  | [] => rfl
  | [t] => simp
  | t :: u :: rest => simp

namespace Arena

variable {a : Arena} {handle : Handle}

/-- A compound type that is no set of overloads gives its own answer. -/
theorem WellFormed.answer_of_not_overloads (h : a.WellFormed) {node : Node}
    (hn : a.get? handle = some node) (single : ∀ members, node ≠ .overloads members)
    (call : Call) : a.answer (.compound handle) call = .ok (a.leafAnswer call handle) := by
  unfold leafAnswer
  rw [hn]
  cases node with
  | function s => rw [answer_function hn, s.answer_eq_exactAnswer]
  | overloads members => exact absurd rfl (single members)
  | minMax bound result =>
    rw [answer_minMax hn]
    rfl
  | foreign => rw [answer_foreign hn, foreignAnswer_eq]
  | fround => rw [answer_fround hn, froundAnswer_eq]
  | table length signature =>
    have function : a.IsFunction signature := (h.fitsAt hn).function length signature rfl
    obtain ⟨s, hs⟩ := Option.isSome_iff_exists.1 function
    rw [answer_table hn hs, s.answer_eq_exactAnswer]
    simp only [hs]

/-! ### Laying out the alternatives -/

/-- In a well-formed arena the alternatives of every type can be laid out. -/
theorem WellFormed.alternatives?_eq_some (h : a.WellFormed) (t : Ty) :
    a.alternatives? t = some (a.alternatives t) := by
  obtain ⟨leaves, ends⟩ : ∃ leaves, a.alternatives? t = some leaves := by
    refine h.induction (P := fun t => ∃ leaves, a.alternatives? t = some leaves) ?_ ?_ ?_ t
    · intro p
      exact ⟨[], alternatives?_prim a p⟩
    · intro handle missing
      exact ⟨[], alternatives?_of_get?_eq_none missing⟩
    · intro handle node hn laid
      cases node with
      | overloads members =>
        obtain ⟨leaves, hleaves⟩ : ∃ leaves, members.mapM a.alternatives? = some leaves :=
          exists_mapM_eq_pure laid
        refine ⟨leaves.flatten, ?_⟩
        rw [alternatives?_overloads hn, hleaves]
        rfl
      | _ => exact ⟨[handle], alternatives?_of_not_overloads hn (by simp)⟩
  rw [alternatives, ends, Option.getD_some]

@[simp] theorem alternatives_prim (a : Arena) (p : Prim) : a.alternatives (.prim p) = [] := by
  rw [alternatives, alternatives?_prim]
  rfl

/-- The alternatives of a set of overloads are those of its members, in order. -/
theorem WellFormed.alternatives_overloads (h : a.WellFormed) {members : List Ty}
    (hn : a.get? handle = some (.overloads members)) :
    a.alternatives (.compound handle) = members.flatMap a.alternatives := by
  have each : ∀ t ∈ members, a.alternatives? t = pure (a.alternatives t) :=
    fun t _ => h.alternatives?_eq_some t
  rw [alternatives, alternatives?_overloads hn, mapM_eq_pure_map each]
  exact List.flatMap_def.symm

/-- A compound type that is no set of overloads is its only alternative. -/
theorem alternatives_of_not_overloads {node : Node} (hn : a.get? handle = some node)
    (single : ∀ members, node ≠ .overloads members) :
    a.alternatives (.compound handle) = [handle] := by
  rw [alternatives, alternatives?_of_not_overloads hn single]
  rfl

/-! ### Calls and alternatives -/

/-- A call of a type that a well-formed arena knows is answered by the first alternative that
accepts. -/
theorem WellFormed.answer_eq_firstAccepted (h : a.WellFormed) {callee : Ty}
    (known : a.Knows callee) (call : Call) :
    a.answer callee call =
      .ok (firstAccepted ((a.alternatives callee).map (a.leafAnswer call))) := by
  refine h.induction_known (P := fun callee => a.answer callee call =
    .ok (firstAccepted ((a.alternatives callee).map (a.leafAnswer call)))) ?_ ?_ known
  · intro p
    rw [answer_prim, alternatives_prim]
    rfl
  · intro handle node hn answers
    cases node with
    | overloads members =>
      have each : ∀ t ∈ members, Ty.accepted? <$> a.answer t call =
          pure (((a.alternatives t).map (a.leafAnswer call)).find? (· ≠ .bottom)) := by
        intro t ht
        rw [answers t ht, ← accepted?_firstAccepted]
        rfl
      rw [answer_overloads hn, findSomeM?_eq_pure_findSome? each, h.alternatives_overloads hn,
        List.map_flatMap, firstAccepted, List.find?_flatMap]
      rfl
    | _ =>
      rw [h.answer_of_not_overloads hn (by simp), alternatives_of_not_overloads hn (by simp)]
      exact congrArg _ (firstAccepted_singleton _).symm

/-- In an arena that requests can lead to, a call of a value type or of a compound type that the
arena holds is answered as if all sets of overloads were first replaced by their members, which
comes to an end, and the call were then put to the alternatives in order: the first answer other
than `bottom` counts. What is wanted and passed does not have to be of this arena. -/
theorem Reachable.answer_eq_first_leaf_answer {a : Arena} (h : a.Reachable) {callee : Ty}
    (known : a.Knows callee) (call : Call) :
    ∃ leaves, a.alternatives? callee = some leaves ∧
      a.answer callee call = .ok (firstAccepted (leaves.map (a.leafAnswer call))) := by
  have wf := h.wellFormed
  exact ⟨a.alternatives callee, wf.alternatives?_eq_some callee,
    wf.answer_eq_firstAccepted known call⟩

theorem alternatives?_nested_overloads :
    sample.alternatives? (.compound ⟨7, 6⟩) = some [⟨7, 1⟩, ⟨7, 0⟩, ⟨7, 3⟩, ⟨7, 5⟩] := by
  have outer : sample.get? ⟨7, 6⟩ =
      some (.overloads [.compound ⟨7, 2⟩, .compound ⟨7, 3⟩, .compound ⟨7, 5⟩]) := rfl
  have inner : sample.get? ⟨7, 2⟩ = some (.overloads [.compound ⟨7, 1⟩, .compound ⟨7, 0⟩]) := rfl
  have minMax : sample.get? ⟨7, 1⟩ = some (.minMax .double .double) := rfl
  have function : sample.get? ⟨7, 0⟩ = some (.function ⟨.prim .int, [.prim .double]⟩) := rfl
  have table : sample.get? ⟨7, 3⟩ = some (.table 4 (.compound ⟨7, 0⟩)) := rfl
  have fround : sample.get? ⟨7, 5⟩ = some .fround := rfl
  rw [alternatives?_overloads outer]
  simp only [List.mapM_cons, List.mapM_nil, alternatives?_overloads inner,
    alternatives?_of_not_overloads minMax (by simp),
    alternatives?_of_not_overloads function (by simp),
    alternatives?_of_not_overloads table (by simp),
    alternatives?_of_not_overloads fround (by simp)]
  rfl

/-- A function two levels down answers for the outer set, before the table with its signature and
the rounding function, which would also take the argument. -/
theorem answer_nested_overloads :
    sample.Reachable ∧ sample.Knows (.compound ⟨7, 6⟩) ∧
      sample.answer (.compound ⟨7, 6⟩) ⟨.prim .int, [.prim .double]⟩ = .ok (.prim .int) := by
  have known : sample.Knows (.compound ⟨7, 6⟩) := rfl
  obtain ⟨leaves, hleaves, hanswer⟩ :=
    reachable_sample.answer_eq_first_leaf_answer known ⟨.prim .int, [.prim .double]⟩
  rw [alternatives?_nested_overloads] at hleaves
  obtain rfl := Option.some.inj hleaves
  exact ⟨reachable_sample, known, hanswer.trans rfl⟩

end Arena

end TypedCalls
