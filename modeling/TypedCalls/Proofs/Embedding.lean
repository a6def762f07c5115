import TypedCalls.Arena.Call
import TypedCalls.Proofs.Structure
import TypedCalls.Proofs.Traversal

/-!
# Arenas inside other arenas

A renaming of types takes one arena into another if it leaves the value types as they are, keeps
different types apart, and sends what stands behind a type, part by part, to what stands behind its
image. The other arena may hold more, in another order, under another identity and with other
settings. None of that can be seen from a type of the first arena: a question follows the parts of
the type, and each of them has its image.

Main statements: a type and its image have the same name, and the image of a call is answered with
the image of the answer.
-/

namespace TypedCalls

/-! ### Renaming the types in data -/

/-- Rename the types of a signature. -/
def Signature.map (r : Ty → Ty) (s : Signature) : Signature :=
  ⟨r s.result, s.params.map r⟩

/-- Rename the parts of a compound type. -/
def Node.map (r : Ty → Ty) : Node → Node
  | function s => function (s.map r)
  | overloads members => overloads (members.map r)
  | minMax bound result => minMax bound result
  | foreign => foreign
  | fround => fround
  | table length signature => table length (r signature)

/-- Rename what is wanted and what is passed. -/
def Call.map (r : Ty → Ty) (call : Call) : Call :=
  ⟨r call.wanted, call.args.map r⟩

@[simp] theorem Node.map_id (node : Node) : node.map (fun t => t) = node := by
  cases node <;> simp [Node.map, Signature.map]

@[simp] theorem Call.map_id (call : Call) : call.map (fun t => t) = call := by
  simp [Call.map]

namespace Arena

/-- A renaming of types takes one arena into another. -/
structure Embeds (r : Ty → Ty) (a b : Arena) : Prop where
  prim : ∀ p, r (.prim p) = .prim p
  injective : Function.Injective r
  node?_map : ∀ t node, a.node? t = some node → b.node? (r t) = some (node.map r)

/-- An arena that keeps every handle of another with its compound type holds it as it is. -/
theorem embeds_of_kept {a b : Arena}
    (kept : ∀ handle node, a.get? handle = some node → b.get? handle = some node) :
    Embeds (fun t => t) a b where
  prim _ := rfl
  injective := Function.injective_id
  node?_map t node hn := by
    rw [Node.map_id]
    cases t with
    | prim p => cases hn
    | compound handle => exact kept handle node hn

namespace Embeds

variable {r : Ty → Ty} {a b : Arena}

/-! ### Images of types -/

theorem bottom (h : Embeds r a b) : r .bottom = .bottom :=
  h.prim .bottom

theorem eq_prim_iff (h : Embeds r a b) {t : Ty} {p : Prim} : r t = .prim p ↔ t = .prim p := by
  constructor
  · intro same
    exact h.injective (same.trans (h.prim p).symm)
  · rintro rfl
    exact h.prim p

/-- The image of a handle is a handle. -/
theorem exists_image (h : Embeds r a b) (handle : Handle) :
    ∃ image, r (.compound handle) = .compound image := by
  cases himage : r (.compound handle) with
  | prim p => cases h.eq_prim_iff.1 himage
  | compound image => exact ⟨image, rfl⟩

/-- Below a value type, the image of a type is the type itself. -/
theorem isSubtype_prim_iff (h : Embeds r a b) {t : Ty} {p : Prim} :
    (r t).IsSubtype (.prim p) ↔ t.IsSubtype (.prim p) := by
  cases t with
  | prim q => rw [h.prim q]
  | compound handle =>
    obtain ⟨image, himage⟩ := h.exists_image handle
    simp [himage]

theorem isAmong_iff (h : Embeds r a b) {t : Ty} {ps : List Prim} :
    (r t).IsAmong ps ↔ t.IsAmong ps := by
  cases t with
  | prim q => rw [h.prim q]
  | compound handle =>
    obtain ⟨image, himage⟩ := h.exists_image handle
    simp [himage]

theorem accepted?_map (h : Embeds r a b) (t : Ty) : (r t).accepted? = t.accepted?.map r := by
  have same : r t = .bottom ↔ t = .bottom := h.eq_prim_iff
  by_cases refused : t = .bottom
  · simp [Ty.accepted?, refused, h.bottom]
  · simp [Ty.accepted?, refused, same]

/-- What stands behind a handle stands, renamed, behind the image of the handle. -/
theorem exists_held (h : Embeds r a b) {handle : Handle} {node : Node}
    (hn : a.get? handle = some node) :
    ∃ image, r (.compound handle) = .compound image ∧ b.get? image = some (node.map r) := by
  obtain ⟨image, himage⟩ := h.exists_image handle
  have held : b.node? (r (.compound handle)) = some (node.map r) :=
    h.node?_map (.compound handle) node hn
  rw [himage] at held
  exact ⟨image, himage, held⟩

/-- The image of a function is a function with the image of its signature. -/
theorem function?_map (h : Embeds r a b) {t : Ty} {s : Signature} (hs : a.function? t = some s) :
    b.function? (r t) = some (s.map r) :=
  function?_eq_some_iff.2 (h.node?_map t (.function s) (function?_eq_some_iff.1 hs))

/-! ### Names -/

/-- What a well-formed arena knows has the name of its image. -/
theorem name_map (h : Embeds r a b) (wf : a.WellFormed) {t : Ty} (known : a.Knows t) :
    b.name (r t) = a.name t := by
  refine wf.induction_known (P := fun t => b.name (r t) = a.name t) ?_ ?_ known
  · intro p
    rw [h.prim p, name_prim, name_prim]
  · intro handle node hn parts
    obtain ⟨image, himage, hb⟩ := h.exists_held hn
    rw [himage]
    cases node with
    | function s =>
      have params : (s.params.map r).mapM b.name = s.params.mapM a.name :=
        mapM_map_eq fun t ht => parts t (List.mem_cons_of_mem s.result ht)
      have result : b.name (r s.result) = a.name s.result := parts s.result List.mem_cons_self
      rw [name_function hn, name_function hb, Signature.map, params, result]
    | overloads members =>
      have each : (members.map r).mapM b.name = members.mapM a.name := mapM_map_eq parts
      rw [name_overloads hn, name_overloads hb, each]
    | minMax bound result => rw [name_minMax hn, name_minMax hb]
    | foreign => rw [name_foreign hn, name_foreign hb]
    | fround => rw [name_fround hn, name_fround hb]
    | table length signature =>
      have named : b.name (r signature) = a.name signature := parts signature List.mem_cons_self
      rw [name_table hn, name_table hb, named]

/-! ### Answers of the shapes -/

/-- A signature compares types with each other, so it needs different types to stay apart. -/
theorem signatureAnswer_map (h : Embeds r a b) (s : Signature) (call : Call) :
    (s.map r).answer (call.map r) = r (s.answer call) := by
  have pairs : (∀ pair ∈ (s.params.map r).zip (call.args.map r), pair.1 = pair.2) ↔
      ∀ pair ∈ s.params.zip call.args, pair.1 = pair.2 := by
    rw [List.zip_map, List.forall_mem_map]
    simp only [Prod.map, h.injective.eq_iff]
  simp only [Signature.answer, Signature.map, Call.map, List.length_map, pairs, ne_eq,
    h.injective.eq_iff, apply_ite r, h.bottom]

theorem minMaxAnswer_map (h : Embeds r a b) (bound result : Prim) (call : Call) :
    minMaxAnswer bound result (call.map r) = r (minMaxAnswer bound result call) := by
  simp only [minMaxAnswer, Call.map, List.length_map, List.forall_mem_map, h.eq_prim_iff,
    h.isSubtype_prim_iff, apply_ite r, h.prim, h.bottom]

theorem foreignAnswer_map (h : Embeds r a b) (call : Call) :
    foreignAnswer (call.map r) = r (foreignAnswer call) := by
  simp only [foreignAnswer, Call.map, List.forall_mem_map, h.isAmong_iff, apply_ite r, h.bottom]

theorem froundAnswer_map (h : Embeds r a b) (call : Call) :
    froundAnswer (call.map r) = r (froundAnswer call) := by
  obtain ⟨wanted, args⟩ := call
  match args with
  | [] => exact h.bottom.symm
  | [t] =>
    simp only [froundAnswer, Call.map, List.map_cons, List.map_nil, h.isSubtype_prim_iff,
      apply_ite r, h.prim, h.bottom]
  | _ :: _ :: _ => exact h.bottom.symm

/-! ### Calls -/

/-- A well-formed arena answers a call of a type that it knows as the other arena answers the image
of the call. -/
theorem answer_map (h : Embeds r a b) (wf : a.WellFormed) {callee : Ty} (known : a.Knows callee)
    (call : Call) : b.answer (r callee) (call.map r) = r <$> a.answer callee call := by
  refine wf.induction_known (P := fun callee =>
    b.answer (r callee) (call.map r) = r <$> a.answer callee call) ?_ ?_ known
  · intro p
    rw [h.prim p, answer_prim, answer_prim]
    exact congrArg Except.ok h.bottom.symm
  · intro handle node hn parts
    obtain ⟨image, himage, hb⟩ := h.exists_held hn
    rw [himage]
    cases node with
    | function s =>
      rw [answer_function hn, answer_function hb, h.signatureAnswer_map]
      rfl
    | overloads members =>
      have each : ∀ t ∈ members, Ty.accepted? <$> b.answer (r t) (call.map r) =
          Option.map r <$> Ty.accepted? <$> a.answer t call := by
        intro t ht
        rw [parts t ht, Functor.map_map, Functor.map_map]
        exact congrArg (· <$> a.answer t call) (funext h.accepted?_map)
      have found : (members.map r).findSomeM? (fun t => Ty.accepted? <$> b.answer t (call.map r)) =
          Option.map r <$> members.findSomeM? fun t => Ty.accepted? <$> a.answer t call :=
        findSomeM?_map_eq each
      rw [answer_overloads hn, answer_overloads hb, found, bind_map_left, map_bind]
      refine bind_congr fun accepted => ?_
      cases accepted with
      | none => exact congrArg Except.ok h.bottom.symm
      | some t => rfl
    | minMax bound result =>
      rw [answer_minMax hn, answer_minMax hb, h.minMaxAnswer_map]
      rfl
    | foreign =>
      rw [answer_foreign hn, answer_foreign hb, h.foreignAnswer_map]
      rfl
    | fround =>
      rw [answer_fround hn, answer_fround hb, h.froundAnswer_map]
      rfl
    | table length signature =>
      have function : a.IsFunction signature := (wf.fitsAt hn).function length signature rfl
      obtain ⟨s, hs⟩ := Option.isSome_iff_exists.1 function
      rw [answer_table hn hs, answer_table hb (h.function?_map hs), h.signatureAnswer_map]
      rfl

end Embeds

end Arena

end TypedCalls
