import TypedCalls.Arena.Draft
import TypedCalls.Proofs.Structure

/-!
# Ways to build a compound type

A function type or a set of overloads can be built in one call, or from a draft that grows part by
part in any way. All of these lead to the same request, so they have the same answer and leave the
same arena. What is built stands behind a new handle, part by part as it was given, and a draft that
is finished twice is built twice.

Main statement: all ways to build a function type or a set of overloads agree, what they build reads
back, and no handle is given to two types.
-/

namespace TypedCalls

namespace Arena

variable {a b c : Arena} {d : Draft} {handle other : Handle}

/-! ### The next handle -/

/-- As long as positions fit into a word, the index of the next handle is the next position. -/
theorem toNat_index_nextHandle (small : a.size < UInt32.size) :
    a.nextHandle.index.toNat = a.size :=
  UInt32.toNat_ofNat_of_lt' small

/-- Nothing stands behind the next handle. -/
theorem get?_nextHandle (small : a.size < UInt32.size) : a.get? a.nextHandle = none := by
  rw [get?, toNat_index_nextHandle small]
  simp [size]

/-- The compound type that is added stands behind the next handle. -/
theorem get?_nextHandle_withNode (small : a.size < UInt32.size) (node : Node) :
    (a.withNode node).get? a.nextHandle = some node := by
  refine get?_eq_some_iff.2 ⟨rfl, ?_⟩
  rw [toNat_index_nextHandle small, nodes_withNode]
  exact Array.getElem?_push_size

/-! ### Finished drafts -/

/-- A draft that is finished is added to the arena. -/
theorem of_finish_eq_ok (finished : d.finish a = (.ok handle, b)) :
    handle = a.nextHandle ∧ b = a.withNode d.node := by
  have unlisted : a.remembered? d.node = none := by cases d <;> rfl
  have outcome := outcome_build a d.node
  rw [← Draft.finish, finished] at outcome
  cases outcome with
  | known old =>
    rw [unlisted] at old
    cases old
  | added => exact ⟨rfl, rfl⟩

/-- A finished draft has a handle behind which nothing stood before, and its compound type stands
there afterwards. -/
theorem get?_of_finish (small : a.size < UInt32.size) (finished : d.finish a = (.ok handle, b)) :
    a.get? handle = none ∧ b.get? handle = some d.node := by
  obtain ⟨rfl, rfl⟩ := of_finish_eq_ok finished
  exact ⟨get?_nextHandle small, get?_nextHandle_withNode small d.node⟩

/-- A handle behind which nothing stands differs from all handles behind which something does. -/
theorem ne_of_get?_eq_none (missing : a.get? handle = none) (held : (a.get? other).isSome) :
    other ≠ handle := by
  rintro rfl
  rw [missing] at held
  cases held

/-- A draft that is finished twice, with any requests in between, is built twice, under different
handles. -/
theorem ne_of_finish_twice {requests : List Node} (small : a.size < UInt32.size)
    (first : d.finish a = (.ok handle, b))
    (still_small : (b.buildAll requests).2.size < UInt32.size)
    (second : d.finish (b.buildAll requests).2 = (.ok other, c)) :
    handle ≠ other ∧ c.get? handle = some d.node ∧ c.get? other = some d.node := by
  obtain ⟨-, stands⟩ := get?_of_finish small first
  obtain ⟨missing, also⟩ := get?_of_finish still_small second
  have between : (b.buildAll requests).2.get? handle = some d.node :=
    (extends_buildAll b requests).get?_eq stands
  refine ⟨ne_of_get?_eq_none missing (between ▸ rfl), ?_, also⟩
  obtain ⟨-, rfl⟩ := of_finish_eq_ok second
  exact (extends_withNode _ d.node).get?_eq between

/-! ### All ways agree -/

/-- In an arena with fewer than 2^32 compound types, take a result and parameters. To build the
function type in one call, to finish a draft to which the parameters were added in order, each in
place or by a longer draft, and to request the compound type are the same: they have the same answer
and leave the same arena. If it is built, the draft had as many parts as there are parameters,
nothing stood behind its handle before, so no handle of another type is equal to it, and afterwards
the function reads back with the result and the parameters in order. The same goes for sets of
overloads.

If a draft and a copy of it are finished in turn, each with fewer than 2^32 compound types in the
arena, the types are different, and what stands behind them is equal. -/
theorem construction_routes_agree (small : a.size < UInt32.size) :
    (∀ result params additions, additions.map Draft.Addition.part = params →
      ((Draft.ofResult result).after additions).finish a = a.functionType result params ∧
      a.functionType result params = a.build (.function ⟨result, params⟩) ∧
      ∀ handle b, a.functionType result params = (.ok handle, b) →
        ((Draft.ofResult result).after additions).size = params.length ∧
        a.get? handle = none ∧ (∀ other, (a.get? other).isSome → other ≠ handle) ∧
        b.function? (.compound handle) = some ⟨result, params⟩) ∧
    (∀ members additions, additions.map Draft.Addition.part = members →
      (Draft.noOverloads.after additions).finish a = a.overloadedType members ∧
      a.overloadedType members = a.build (.overloads members) ∧
      ∀ handle b, a.overloadedType members = (.ok handle, b) →
        (Draft.noOverloads.after additions).size = members.length ∧
        a.get? handle = none ∧ (∀ other, (a.get? other).isSome → other ≠ handle) ∧
        b.overloads? (.compound handle) = some members) ∧
    ∀ (d : Draft) requests handle other b c, d.finish a = (.ok handle, b) →
      (b.buildAll requests).2.size < UInt32.size →
      d.finish (b.buildAll requests).2 = (.ok other, c) →
        Ty.compound handle ≠ .compound other ∧
          ∃ node, c.node? (.compound handle) = some node ∧
            c.node? (.compound other) = some node := by
  refine ⟨?_, ?_, ?_⟩
  · rintro result params additions rfl
    rw [Draft.after_ofResult, functionType_eq]
    refine ⟨rfl, rfl, fun handle b finished => ?_⟩
    obtain ⟨missing, stands⟩ := get?_of_finish small finished
    exact ⟨rfl, missing, fun other => ne_of_get?_eq_none missing,
      function?_eq_some_iff.2 stands⟩
  · rintro members additions rfl
    rw [Draft.after_noOverloads, overloadedType_eq]
    refine ⟨rfl, rfl, fun handle b finished => ?_⟩
    obtain ⟨missing, stands⟩ := get?_of_finish small finished
    refine ⟨rfl, missing, fun other => ne_of_get?_eq_none missing, ?_⟩
    rw [overloads?, node?_compound, stands]
    rfl
  · intro d requests handle other b c first still_small second
    obtain ⟨differ, stands, also⟩ := ne_of_finish_twice small first still_small second
    exact ⟨fun same => differ (Ty.compound.inj same), d.node, stands, also⟩

/-- One parameter is added by a longer draft and one, a set of overloads, in place. The function is
built as in one call, and once more from a copy of the draft after a refused request. -/
theorem mixed_draft_finished_twice :
    let d := (Draft.ofResult (.prim .void)).after
      [.chained (.prim .int), .inPlace (.compound ⟨7, 6⟩)]
    let b := (sample.functionType (.prim .void) [.prim .int, .compound ⟨7, 6⟩]).2
    sample.size < UInt32.size ∧ d.finish sample = (.ok ⟨7, 7⟩, b) ∧ d.size = 2 ∧
      sample.get? ⟨7, 7⟩ = none ∧
      b.function? (.compound ⟨7, 7⟩) = some ⟨.prim .void, [.prim .int, .compound ⟨7, 6⟩]⟩ ∧
      ∃ c, d.finish (b.buildAll [.overloads [.prim .int]]).2 = (.ok ⟨7, 8⟩, c) ∧
        Ty.compound ⟨7, 7⟩ ≠ .compound ⟨7, 8⟩ ∧
        c.node? (.compound ⟨7, 7⟩) = c.node? (.compound ⟨7, 8⟩) := by
  intro d b
  have small : sample.size < UInt32.size := by decide
  have still_small : (b.buildAll [.overloads [.prim .int]]).2.size < UInt32.size := by decide
  have built : sample.functionType (.prim .void) [.prim .int, .compound ⟨7, 6⟩] =
    (.ok ⟨7, 7⟩, b) := rfl
  obtain ⟨functions, -, copies⟩ := construction_routes_agree small
  obtain ⟨same, -, reads⟩ := functions (.prim .void) [.prim .int, .compound ⟨7, 6⟩]
    [.chained (.prim .int), .inPlace (.compound ⟨7, 6⟩)] rfl
  obtain ⟨arity, missing, -, read⟩ := reads ⟨7, 7⟩ b built
  have first : d.finish sample = (.ok ⟨7, 7⟩, b) := same.trans built
  obtain ⟨differ, node, stands, also⟩ := copies d [.overloads [.prim .int]] ⟨7, 7⟩ ⟨7, 8⟩ b _ first
    still_small rfl
  exact ⟨small, first, arity, missing, read, _, rfl, differ, stands.trans also.symm⟩

end Arena

end TypedCalls
