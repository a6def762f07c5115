import TypedCalls.Proofs.Embedding
import TypedCalls.Proofs.Totality

/-!
# Types in other places

Where an arena stores a type is up to the order of the requests, and to what else was requested.
None of this shows in the name of the type or in what comes of its calls: if another arena holds the
same compound types elsewhere, with handles in the places of handles, then it gives the same names,
and the same answers up to those handles.

Main statement: names and answers of a reachable arena carry over to any arena that it is taken
into.
-/

namespace TypedCalls

/-- Change the handles of types, and leave value types as they are. -/
def Ty.mapHandle (f : Handle → Handle) : Ty → Ty
  | prim p => prim p
  | compound handle => compound (f handle)

namespace Arena

/-- A renaming of handles takes one arena into another if it keeps different handles apart and sends
what stands behind a handle to what stands behind its image. -/
theorem embeds_mapHandle {f : Handle → Handle} {a b : Arena} (injective : Function.Injective f)
    (moved : ∀ handle node, a.get? handle = some node →
      b.get? (f handle) = some (node.map (Ty.mapHandle f))) : Embeds (Ty.mapHandle f) a b where
  prim _ := rfl
  injective := by
    intro t u same
    cases t with
    | prim p =>
      cases u with
      | prim q => exact same
      | compound handle => cases same
    | compound handle =>
      cases u with
      | prim q => cases same
      | compound other => rw [injective (Ty.compound.inj same)]
  node?_map t node hn := by
    cases t with
    | prim p => cases hn
    | compound handle => exact moved handle node hn

/-- Let a renaming of types take an arena that requests can lead to into another arena: it leaves
value types as they are, keeps different types apart, and sends what stands behind a type, part by
part, to what stands behind its image. Then each type that the first arena knows has a name there,
and its image has the same name in the other arena; and each call of the type has an answer there,
and the image of the call is answered with the image of that answer. What else the other arena
holds, and in which order, makes no difference. -/
theorem Reachable.place_irrelevant {a b : Arena} (h : a.Reachable) {r : Ty → Ty}
    (moved : Embeds r a b) :
    (∀ t, a.Knows t → ∃ text, a.name t = .ok text ∧ b.name (r t) = .ok text) ∧
    ∀ callee, a.Knows callee → ∀ call, ∃ result, a.answer callee call = .ok result ∧
      b.answer (r callee) ⟨r call.wanted, call.args.map r⟩ = .ok (r result) := by
  have wf : a.WellFormed := h.wellFormed
  constructor
  · intro t known
    obtain ⟨text, named⟩ := wf.exists_name known
    exact ⟨text, named, (moved.name_map wf known).trans named⟩
  · intro callee known call
    have answered := wf.answer_eq_firstAccepted known call
    have image := moved.answer_map wf known call
    rw [answered] at image
    exact ⟨_, answered, image⟩

/-- An arena with a function from a compound type to itself, behind which an alternative of another
set stands. -/
def higherOrder : Arena :=
  ((Arena.empty 7 .standard).buildAll
    [.minMax .int .signed,
      .fround,
      .function ⟨.compound ⟨7, 0⟩, [.compound ⟨7, 0⟩]⟩,
      .foreign,
      .overloads [.compound ⟨7, 3⟩, .compound ⟨7, 2⟩]]).2

/-- The same types in another arena, in another order and with one more among them. -/
def higherOrderElsewhere : Arena :=
  ((Arena.empty 9 .standard).buildAll
    [.fround,
      .minMax .int .signed,
      .foreign,
      .function ⟨.compound ⟨9, 1⟩, [.compound ⟨9, 1⟩]⟩,
      .function ⟨.prim .void, []⟩,
      .overloads [.compound ⟨9, 2⟩, .compound ⟨9, 3⟩]]).2

/-- The place of a handle of the one arena in the other: neighbours are swapped. -/
def elsewhere (handle : Handle) : Handle :=
  ⟨handle.arena + 2, handle.index ^^^ 1⟩

/-- What stands behind a handle of the one arena stands, renamed, behind its place in the other. -/
theorem embeds_elsewhere :
    Embeds (Ty.mapHandle elsewhere) higherOrder higherOrderElsewhere := by
  refine embeds_mapHandle ?_ ?_
  · rintro ⟨arena, index⟩ ⟨otherArena, otherIndex⟩ same
    obtain ⟨arenas, indices⟩ := Handle.mk.inj same
    obtain rfl : arena = otherArena := (UInt32.add_left_inj 2).1 arenas
    obtain rfl : index = otherIndex := (UInt32.xor_left_inj 1).1 indices
    rfl
  · have each : ∀ i : Fin 5, higherOrderElsewhere.get? (elsewhere ⟨7, UInt32.ofNat i⟩) =
        (higherOrder.get? ⟨7, UInt32.ofNat i⟩).map (Node.map (Ty.mapHandle elsewhere)) := by
      decide
    intro handle node hn
    obtain ⟨arena, index⟩ := handle
    obtain ⟨own, -⟩ := get?_eq_some_iff.1 hn
    obtain rfl : arena = 7 := own
    have bound : index.toNat < 5 := index_lt_size hn
    have image := each ⟨index.toNat, bound⟩
    rw [UInt32.ofNat_toNat, hn] at image
    exact image

/-- The function returns the type that it takes. Elsewhere that is the image of the type. -/
theorem higherOrder_answer_elsewhere :
    higherOrder.Reachable ∧ Embeds (Ty.mapHandle elsewhere) higherOrder higherOrderElsewhere ∧
      higherOrder.answer (.compound ⟨7, 4⟩) ⟨.compound ⟨7, 0⟩, [.compound ⟨7, 0⟩]⟩ =
        .ok (.compound ⟨7, 0⟩) ∧
      higherOrderElsewhere.answer (.compound ⟨9, 5⟩) ⟨.compound ⟨9, 1⟩, [.compound ⟨9, 1⟩]⟩ =
        .ok (.compound ⟨9, 1⟩) := by
  have reachable : higherOrder.Reachable := (Reachable.empty 7 _).buildAll _
  have set : higherOrder.get? ⟨7, 4⟩ = some (.overloads [.compound ⟨7, 3⟩, .compound ⟨7, 2⟩]) := rfl
  have foreign : higherOrder.get? ⟨7, 3⟩ = some .foreign := rfl
  have function : higherOrder.get? ⟨7, 2⟩ =
    some (.function ⟨.compound ⟨7, 0⟩, [.compound ⟨7, 0⟩]⟩) := rfl
  have answer : higherOrder.answer (.compound ⟨7, 4⟩) ⟨.compound ⟨7, 0⟩, [.compound ⟨7, 0⟩]⟩ =
      .ok (.compound ⟨7, 0⟩) := by
    rw [answer_overloads set]
    simp only [List.findSomeM?, answer_foreign foreign, answer_function function]
    rfl
  obtain ⟨-, calls⟩ := reachable.place_irrelevant embeds_elsewhere
  obtain ⟨result, here, there⟩ :=
    calls (.compound ⟨7, 4⟩) rfl ⟨.compound ⟨7, 0⟩, [.compound ⟨7, 0⟩]⟩
  obtain rfl := Except.ok.inj (answer.symm.trans here)
  exact ⟨reachable, embeds_elsewhere, answer, there⟩

end Arena

end TypedCalls
