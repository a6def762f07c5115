import TypedCalls.Prim.Basic

/-!
# Ancestry

The supertypes that can be reached from a list of value types along a table of direct
supertypes. The table is any function, so it may hold cycles.

The walk keeps a stack of types to look at, the last one listed on top, and collects each type
the first time it is met.

Main statements: a walk collects no type twice, and collects exactly the types that are listed
or lie above a listed one.
-/

namespace TypedCalls

namespace Prim

/-- How many direct supertypes the types outside `found` have together. -/
def unexplored (next : Prim → List Prim) (found : List Prim) : Nat :=
  ((all.filter (· ∉ found)).flatMap next).length

private theorem length_flatMap_filter (next : Prim → List Prim) (found : List Prim) {p : Prim}
    (fresh : p ∉ found) {ps : List Prim} (distinct : ps.Nodup) (member : p ∈ ps) :
    ((ps.filter (· ∉ found ++ [p])).flatMap next).length + (next p).length =
      ((ps.filter (· ∉ found)).flatMap next).length := by
  induction ps with
  | nil => simp at member
  | cons q ps ih =>
    obtain ⟨hq, distinct⟩ := List.nodup_cons.1 distinct
    by_cases h : q = p
    · subst h
      have same : ps.filter (· ∉ found ++ [q]) = ps.filter (· ∉ found) := by
        refine List.filter_congr fun r hr => ?_
        have : r ≠ q := fun h => hq (h ▸ hr)
        simp [this]
      rw [List.filter_cons_of_neg (by simp), List.filter_cons_of_pos (by simpa using fresh), same]
      simp [Nat.add_comm]
    · have ih := ih distinct (by simpa [Ne.symm h] using member)
      by_cases hf : q ∈ found
      · rw [List.filter_cons_of_neg (by simp [hf]), List.filter_cons_of_neg (by simp [hf]), ih]
      · rw [List.filter_cons_of_pos (by simp [hf, h]), List.filter_cons_of_pos (by simp [hf])]
        simp only [List.flatMap_cons, List.length_append]
        omega

/-- Finding a type settles its direct supertypes. -/
theorem unexplored_append (next : Prim → List Prim) {found : List Prim} {p : Prim}
    (fresh : p ∉ found) :
    unexplored next (found ++ [p]) + (next p).length = unexplored next found :=
  length_flatMap_filter next found fresh nodup_all (mem_all p)

/-- Collect what lies on a stack or above it. The direct supertypes of a new find go on top of
the stack, the last of them first. -/
def walk (next : Prim → List Prim) (found : List Prim) : List Prim → List Prim
  | [] => found
  | p :: stack =>
    if p ∈ found then
      walk next found stack
    else
      walk next (found ++ [p]) ((next p).reverse ++ stack)
termination_by stack => stack.length + unexplored next found
decreasing_by
  · simp only [List.length_cons]
    omega
  · rename_i fresh
    have := unexplored_append next fresh
    simp only [List.length_append, List.length_reverse, List.length_cons]
    omega

/-- The types that are listed or lie above a listed one, in the order of the walk. -/
def closure (next : Prim → List Prim) (listed : List Prim) : List Prim :=
  walk next [] listed.reverse

/-- The proper supertypes of a value type, in the order of the walk. -/
def ancestors (p : Prim) : List Prim :=
  closure parents p.parents

/-- `Above next listed p` says that `p` is listed, or is a direct supertype of a type that is
listed or lies above. -/
inductive Above (next : Prim → List Prim) (listed : List Prim) : Prim → Prop where
  | listed {p : Prim} : p ∈ listed → Above next listed p
  | parent {p q : Prim} : Above next listed p → q ∈ next p → Above next listed q

/-! ### What a walk collects -/

theorem nodup_walk (next : Prim → List Prim) {found stack : List Prim} (h : found.Nodup) :
    (walk next found stack).Nodup := by
  fun_induction walk next found stack with
  | case1 => exact h
  | case2 found p stack _ ih => exact ih h
  | case3 found p stack fresh ih =>
    refine ih (List.nodup_append.2 ⟨h, by simp, ?_⟩)
    rintro a ha b hb rfl
    exact fresh (List.mem_singleton.1 hb ▸ ha)

theorem found_subset_walk (next : Prim → List Prim) (found stack : List Prim) :
    found ⊆ walk next found stack := by
  fun_induction walk next found stack with
  | case1 => exact List.Subset.refl _
  | case2 found p stack _ ih => exact ih
  | case3 found p stack _ ih => exact fun q hq => ih (List.mem_append_left _ hq)

theorem stack_subset_walk (next : Prim → List Prim) (found stack : List Prim) :
    stack ⊆ walk next found stack := by
  fun_induction walk next found stack with
  | case1 => simp
  | case2 found p stack seen ih =>
    exact List.cons_subset.2 ⟨found_subset_walk next found stack seen, ih⟩
  | case3 found p stack _ ih =>
    refine List.cons_subset.2 ⟨?_, fun q hq => ih (List.mem_append_right _ hq)⟩
    exact found_subset_walk next _ _ (by simp)

/-- A walk that starts with every direct supertype of a find on its stack, or found, ends with
every direct supertype of a find among its finds. -/
theorem parents_subset_walk (next : Prim → List Prim) {found stack : List Prim}
    (h : ∀ p ∈ found, ∀ q ∈ next p, q ∈ found ∨ q ∈ stack) :
    ∀ p ∈ walk next found stack, next p ⊆ walk next found stack := by
  fun_induction walk next found stack with
  | case1 found =>
    intro p hp q hq
    simpa using h p hp q hq
  | case2 found p stack seen ih =>
    refine ih fun r hr q hq => ?_
    rcases h r hr q hq with hq | hq
    · exact Or.inl hq
    · rcases List.mem_cons.1 hq with rfl | hq
      · exact Or.inl seen
      · exact Or.inr hq
  | case3 found p stack _ ih =>
    refine ih fun r hr q hq => ?_
    rcases List.mem_append.1 hr with hr | hr
    · rcases h r hr q hq with hq | hq
      · exact Or.inl (List.mem_append_left _ hq)
      · rcases List.mem_cons.1 hq with rfl | hq
        · exact Or.inl (by simp)
        · exact Or.inr (List.mem_append_right _ hq)
    · obtain rfl := List.mem_singleton.1 hr
      exact Or.inr (by simp [hq])

theorem above_of_mem_walk {next : Prim → List Prim} {listed found stack : List Prim}
    (hf : ∀ p ∈ found, Above next listed p) (hs : ∀ p ∈ stack, Above next listed p) :
    ∀ p ∈ walk next found stack, Above next listed p := by
  fun_induction walk next found stack with
  | case1 => exact hf
  | case2 found p stack _ ih => exact ih hf fun q hq => hs q (List.mem_cons_of_mem _ hq)
  | case3 found p stack _ ih =>
    have hp := hs p (by simp)
    refine ih ?_ ?_
    · intro q hq
      rcases List.mem_append.1 hq with hq | hq
      · exact hf q hq
      · exact List.mem_singleton.1 hq ▸ hp
    · intro q hq
      rcases List.mem_append.1 hq with hq | hq
      · exact hp.parent (List.mem_reverse.1 hq)
      · exact hs q (List.mem_cons_of_mem _ hq)

/-- No type is collected twice. -/
theorem nodup_closure (next : Prim → List Prim) (listed : List Prim) :
    (closure next listed).Nodup :=
  nodup_walk next List.nodup_nil

/-- The closure holds the listed types and what lies above them, and nothing else. -/
theorem mem_closure_iff {next : Prim → List Prim} {listed : List Prim} {p : Prim} :
    p ∈ closure next listed ↔ Above next listed p := by
  constructor
  · exact above_of_mem_walk (by simp) (fun q hq => .listed (List.mem_reverse.1 hq)) p
  · intro h
    induction h with
    | listed h => exact stack_subset_walk next _ _ (List.mem_reverse.2 h)
    | parent _ hq ih => exact parents_subset_walk next (by simp) _ ih hq

end Prim

end TypedCalls
