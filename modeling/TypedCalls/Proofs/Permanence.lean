import TypedCalls.Proofs.Embedding
import TypedCalls.Proofs.Totality

/-!
# Permanence of answers

Requests only add to an arena, and what they add stands behind no type that the arena knew before,
neither directly nor through parts. So whatever has once been answered about a type is answered in
the same way for as long as the arena lives.

Main statement: after any requests, an arena answers every question about a type that it knew before
them as it did before them.
-/

namespace TypedCalls

namespace Arena

section

variable {a b : Arena}

/-- An arena that goes on holds the arena that it was, without renaming anything. -/
theorem Extends.embeds (h : Extends b a) : Embeds (fun t => t) a b :=
  embeds_of_kept fun _ _ hn => h.get?_eq hn

/-- What stands behind a type that the arena knows does not change. -/
theorem Extends.node?_eq_of_knows (h : Extends b a) {t : Ty} (known : a.Knows t) :
    b.node? t = a.node? t := by
  cases t with
  | prim p => rfl
  | compound handle =>
    obtain ⟨node, hn⟩ := Option.isSome_iff_exists.1 known
    rw [node?_compound, node?_compound, hn]
    exact h.get?_eq hn

/-- The downcasts of a type see only what stands behind it. -/
theorem downcasts_congr {t : Ty} (same : b.node? t = a.node? t) :
    b.function? t = a.function? t ∧ b.overloads? t = a.overloads? t ∧
      b.minMax? t = a.minMax? t ∧ b.table? t = a.table? t ∧
      (b.IsCallable t ↔ a.IsCallable t) ∧ (b.IsForeign t ↔ a.IsForeign t) ∧
      (b.IsFround t ↔ a.IsFround t) := by
  simp only [function?, overloads?, minMax?, table?, IsCallable, IsForeign, IsFround, same,
    and_self]

/-- The name of a type that the arena knows does not change. -/
theorem Extends.name_eq (h : Extends b a) (wf : a.WellFormed) {t : Ty} (known : a.Knows t) :
    b.name t = a.name t :=
  h.embeds.name_map wf known

/-- The answer to a call of a type that the arena knows does not change. -/
theorem Extends.answer_eq (h : Extends b a) (wf : a.WellFormed) {callee : Ty}
    (known : a.Knows callee) (call : Call) : b.answer callee call = a.answer callee call := by
  have image := h.embeds.answer_map wf known call
  rw [Call.map_id, id_map'] at image
  exact image

end

/-- In an arena that requests can lead to, let further requests follow, whether they are refused or
not. The types of the arena stay where they are, with others after them, and its identity and its
settings do not change. About a value type and about a compound type that the arena held before, all
questions have the answers that they had: what stands behind the type, of which shape it is, how it
is named, and what comes of each call of it. Names and calls do have an answer, before and after. -/
theorem Reachable.answers_permanent {a : Arena} (h : a.Reachable) (requests : List Node) :
    let b := (a.buildAll requests).2
    (a.nodes.toList <+: b.nodes.toList ∧ a.size ≤ b.size ∧ b.settings = a.settings ∧
      b.id = a.id) ∧
    ∀ t, a.Knows t →
      b.node? t = a.node? t ∧
      (b.function? t = a.function? t ∧ b.overloads? t = a.overloads? t ∧
        b.minMax? t = a.minMax? t ∧ b.table? t = a.table? t ∧
        (b.IsCallable t ↔ a.IsCallable t) ∧ (b.IsForeign t ↔ a.IsForeign t) ∧
        (b.IsFround t ↔ a.IsFround t)) ∧
      (∃ text, a.name t = .ok text ∧ b.name t = .ok text) ∧
      ∀ call, ∃ result, a.answer t call = .ok result ∧ b.answer t call = .ok result := by
  intro b
  have wf : a.WellFormed := h.wellFormed
  have later : Extends b a := extends_buildAll a requests
  refine ⟨⟨later.nodes_prefix, later.size_le, later.settings_eq, later.id_eq⟩, ?_⟩
  intro t known
  have same : b.node? t = a.node? t := later.node?_eq_of_knows known
  refine ⟨same, downcasts_congr same, ?_, ?_⟩
  · obtain ⟨text, htext⟩ := wf.exists_name known
    exact ⟨text, htext, (later.name_eq wf known).trans htext⟩
  · intro call
    have answered := wf.answer_eq_firstAccepted known call
    exact ⟨_, answered, (later.answer_eq wf known call).trans answered⟩

/-- A set of overloads keeps its name and its answers while requests are granted and refused, among
them one for another set with this one as a member. -/
theorem nested_overloads_permanent :
    let b := (sample.buildAll [.minMax .int .int, .table 1 (.compound ⟨7, 2⟩), .foreign,
      .overloads [.compound ⟨7, 7⟩, .compound ⟨7, 6⟩]]).2
    sample.Reachable ∧ sample.Knows (.compound ⟨7, 6⟩) ∧ sample.size = 7 ∧ b.size = 9 ∧
      b.overloads? (.compound ⟨7, 6⟩) =
        some [.compound ⟨7, 2⟩, .compound ⟨7, 3⟩, .compound ⟨7, 5⟩] ∧
      (∃ text, sample.name (.compound ⟨7, 6⟩) = .ok text ∧ b.name (.compound ⟨7, 6⟩) = .ok text) ∧
      ∃ result, sample.answer (.compound ⟨7, 6⟩) ⟨.prim .int, [.prim .double]⟩ = .ok result ∧
        b.answer (.compound ⟨7, 6⟩) ⟨.prim .int, [.prim .double]⟩ = .ok result := by
  intro b
  have known : sample.Knows (.compound ⟨7, 6⟩) := rfl
  obtain ⟨-, kept⟩ := reachable_sample.answers_permanent
    [.minMax .int .int, .table 1 (.compound ⟨7, 2⟩), .foreign,
      .overloads [.compound ⟨7, 7⟩, .compound ⟨7, 6⟩]]
  obtain ⟨-, ⟨-, overloads, -⟩, named, called⟩ := kept _ known
  exact ⟨reachable_sample, known, rfl, rfl, overloads.trans rfl, named, called _⟩

end Arena

end TypedCalls
