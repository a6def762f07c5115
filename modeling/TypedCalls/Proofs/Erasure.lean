import TypedCalls.Arena.Draft
import TypedCalls.Proofs.Request

/-!
# Erasing refused requests

A refused request leaves no trace: not in the stored types, and not in the handles that the arena
remembers for what it builds once. So the requests that follow cannot tell that it was made.

Main statement: without its refused requests, a run gives the same answers to the others and ends in
the same arena.
-/

namespace TypedCalls

namespace Arena

/-- The requests of a run that are granted, each with its answer. -/
def granted (a : Arena) (requests : List Node) : List (Node × Except BuildError Handle) :=
  (requests.zip (a.buildAll requests).1).filter fun request => request.2.isOk

section

variable {a : Arena} {node : Node} {rest : List Node}

/-- A refused request is not among the granted ones, and the others find the arena as it was. -/
theorem granted_cons_of_refused {e : BuildError} (refused : (a.build node).1 = .error e) :
    a.granted (node :: rest) = a.granted rest := by
  rw [granted, buildAll_cons, List.zip_cons_cons, refused, eq_of_refused refused]
  exact List.filter_cons_of_neg Bool.false_ne_true

/-- A granted request comes first, and the others find the arena as it leaves it. -/
theorem granted_cons_of_ok {handle : Handle} (answered : (a.build node).1 = .ok handle) :
    a.granted (node :: rest) = (node, .ok handle) :: (a.build node).2.granted rest := by
  rw [granted, buildAll_cons, List.zip_cons_cons, answered]
  exact List.filter_cons_of_pos rfl

end

/-- The granted requests alone are granted again, with the same answers, and lead to the same
arena. -/
theorem buildAll_granted (a : Arena) (requests : List Node) :
    a.buildAll ((a.granted requests).map Prod.fst) =
      ((a.granted requests).map Prod.snd, (a.buildAll requests).2) := by
  induction requests generalizing a with
  | nil => rfl
  | cons node rest ih =>
    cases answer : (a.build node).1 with
    | error e =>
      have unchanged : (a.build node).2 = a := eq_of_refused answer
      rw [granted_cons_of_refused answer, ih, buildAll_cons, unchanged]
    | ok handle =>
      rw [granted_cons_of_ok answer, List.map_cons, List.map_cons, buildAll_cons, ih, answer,
        buildAll_cons]

/-- A request that is refused, made directly or by finishing a draft, leaves the arena exactly as it
was. So all refused requests can be erased from a run of requests, each of which has one answer: the
granted ones, made one after another from the same arena, get the answers that they got in the whole
run, and lead to the same arena. -/
theorem refusals_erasable (a : Arena) :
    (∀ node e, (a.build node).1 = .error e → (a.build node).2 = a) ∧
    (∀ (d : Draft) e, (d.finish a).1 = .error e → (d.finish a).2 = a) ∧
    ∀ requests, (a.buildAll requests).1.length = requests.length ∧
      a.buildAll ((a.granted requests).map Prod.fst) =
        ((a.granted requests).map Prod.snd, (a.buildAll requests).2) := by
  refine ⟨?_, ?_, ?_⟩
  · intro node e refused
    exact eq_of_refused refused
  · intro d e refused
    exact eq_of_refused refused
  · intro requests
    exact ⟨length_buildAll a requests, buildAll_granted a requests⟩

/-- An arena with room for one compound type refuses a handle that it has not given out yet, builds
the rounding function under that handle, and refuses the foreign function for want of room. Without
the two refusals, the rounding function has the same handle. -/
theorem refusals_around_fround_erased :
    let a := Arena.empty 4 (Settings.standard.withLimit 1)
    let run := a.buildAll [.overloads [.compound ⟨4, 0⟩], .fround, .foreign, .fround]
    run.1 = [.error (.unknownHandle ⟨4, 0⟩), .ok ⟨4, 0⟩, .error (.limitExceeded 1), .ok ⟨4, 0⟩] ∧
      a.buildAll [.fround, .fround] = ([.ok ⟨4, 0⟩, .ok ⟨4, 0⟩], run.2) := by
  intro a run
  obtain ⟨-, -, runs⟩ := refusals_erasable a
  exact ⟨rfl, (runs [.overloads [.compound ⟨4, 0⟩], .fround, .foreign, .fround]).2⟩

end Arena

end TypedCalls
