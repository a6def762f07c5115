import Mathlib.Data.List.Forall2

/-!
# Traversals of lists

A question about a type is put to the parts of the type one after another, in a monad in which a
step can fail, or can fail to come to an end. What is known of each step carries over to the whole
traversal, or to a search that stops at the first find. Two lists can be traversed side by side, if
each member of the one is related to the member of the other at its place.

Main statements: a traversal is pure if its steps are, and two traversals or searches are the same
if their steps are.
-/

namespace TypedCalls

/-! ### Lists side by side -/

section

variable {α β γ : Type} {R : α → β → Prop} {xs : List α} {ys : List β}

/-- If each member of a list is related to something, a list of such things stands beside it. -/
theorem exists_forall₂ (h : ∀ x ∈ xs, ∃ y, R x y) : ∃ ys, xs.Forall₂ R ys := by
  induction xs with
  | nil => exact ⟨[], .nil⟩
  | cons x xs ih =>
    obtain ⟨y, hy⟩ := h x List.mem_cons_self
    obtain ⟨ys, hys⟩ := ih fun z hz => h z (List.mem_cons_of_mem x hz)
    exact ⟨y :: ys, .cons hy hys⟩

/-- Each member of a list is related to some member of a list beside it. -/
theorem exists_mem_of_forall₂ (related : xs.Forall₂ R ys) {x : α} (hx : x ∈ xs) :
    ∃ y ∈ ys, R x y := by
  induction related with
  | nil => cases hx
  | @cons first other xs ys hfirst _ ih =>
    rcases List.mem_cons.1 hx with rfl | later
    · exact ⟨other, List.mem_cons_self, hfirst⟩
    · obtain ⟨y, hy, hxy⟩ := ih later
      exact ⟨y, List.mem_cons_of_mem other hy, hxy⟩

/-- Searches of two lists side by side find related members, or none. -/
theorem rel_find? {f : α → Bool} {g : β → Bool} (related : xs.Forall₂ R ys)
    (same : ∀ x y, R x y → f x = g y) : Option.Rel R (xs.find? f) (ys.find? g) := by
  induction related with
  | nil => exact .none
  | @cons x y xs ys first _ ih =>
    rw [List.find?_cons, List.find?_cons, same x y first]
    cases g y with
    | false => exact ih
    | true => exact .some first

/-- Searches of two lists have the same result if their steps have, side by side. -/
theorem findSome?_eq_of_forall₂ {f : α → Option γ} {g : β → Option γ} (related : xs.Forall₂ R ys)
    (same : ∀ x y, R x y → f x = g y) : xs.findSome? f = ys.findSome? g := by
  induction related with
  | nil => rfl
  | @cons x y xs ys first _ ih => rw [List.findSome?_cons, List.findSome?_cons, same x y first, ih]

end

/-! ### Steps in a monad -/

section

variable {m : Type → Type} [Monad m] [LawfulMonad m] {α β γ δ : Type} {xs : List α}

/-- Traversals of two lists are the same if their steps are, side by side. -/
theorem mapM_eq_of_forall₂ {R : α → β → Prop} {f : α → m γ} {g : β → m γ} {ys : List β}
    (related : xs.Forall₂ R ys) (h : ∀ x ∈ xs, ∀ y, R x y → f x = g y) :
    xs.mapM f = ys.mapM g := by
  induction related with
  | nil => rfl
  | @cons x y xs ys first _ ih =>
    have hx : f x = g y := h x List.mem_cons_self y first
    have hxs : xs.mapM f = ys.mapM g := ih fun z hz => h z (List.mem_cons_of_mem x hz)
    rw [List.mapM_cons, List.mapM_cons, hx, hxs]

/-- A traversal has a result if each of its steps has. -/
theorem exists_mapM_eq_pure {f : α → m β} (h : ∀ x ∈ xs, ∃ y, f x = pure y) :
    ∃ ys, xs.mapM f = pure ys := by
  obtain ⟨ys, related⟩ := exists_forall₂ h
  refine ⟨ys, ?_⟩
  rw [mapM_eq_of_forall₂ related fun _ _ _ step => step, List.mapM_pure, List.map_id']

/-- Traversals of one list are the same if their steps are. -/
theorem mapM_congr {f g : α → m β} (h : ∀ x ∈ xs, f x = g x) : xs.mapM f = xs.mapM g := by
  have beside : xs.Forall₂ (· = ·) xs := List.forall₂_refl xs
  refine mapM_eq_of_forall₂ beside fun x hx y same => ?_
  rw [h x hx, same]

/-- A traversal of a renamed list takes the steps of the list before. -/
theorem mapM_map_eq {r : α → β} {f : α → m γ} {g : β → m γ} (h : ∀ x ∈ xs, g (r x) = f x) :
    (xs.map r).mapM g = xs.mapM f := by
  rw [List.mapM_map]
  exact mapM_congr h

/-- A traversal is pure if each of its steps is. -/
theorem mapM_eq_pure_map {f : α → m β} {g : α → β} (h : ∀ x ∈ xs, f x = pure (g x)) :
    xs.mapM f = pure (xs.map g) := by
  rw [mapM_congr h, List.mapM_pure]

/-- A search is pure if each of its steps is. -/
theorem findSomeM?_eq_pure_findSome? {f : α → m (Option β)} {g : α → Option β}
    (h : ∀ x ∈ xs, f x = pure (g x)) : xs.findSomeM? f = pure (xs.findSome? g) := by
  induction xs with
  | nil => rw [List.findSomeM?_nil, List.findSome?_nil]
  | cons x xs ih =>
    have hx := h x List.mem_cons_self
    have hxs := ih fun y hy => h y (List.mem_cons_of_mem x hy)
    rw [List.findSomeM?_cons, hx, pure_bind, List.findSome?_cons]
    cases g x with
    | none => exact hxs
    | some y => rfl

/-- A search of a renamed list finds what a search of the list before finds, renamed. -/
theorem findSomeM?_map_eq {r : α → β} {s : γ → δ} {f : α → m (Option γ)} {g : β → m (Option δ)}
    (h : ∀ x ∈ xs, g (r x) = Option.map s <$> f x) :
    (xs.map r).findSomeM? g = Option.map s <$> xs.findSomeM? f := by
  induction xs with
  | nil => rw [List.map_nil, List.findSomeM?_nil, List.findSomeM?_nil, map_pure, Option.map_none]
  | cons x xs ih =>
    have hx := h x List.mem_cons_self
    have hxs := ih fun y hy => h y (List.mem_cons_of_mem x hy)
    rw [List.map_cons, List.findSomeM?_cons, List.findSomeM?_cons, hx, bind_map_left, map_bind]
    refine bind_congr fun found => ?_
    cases found with
    | none => exact hxs
    | some y => exact (map_pure (Option.map s) (some y)).symm

end

end TypedCalls
