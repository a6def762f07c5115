import TypedCalls.Arena.Name

/-!
# Calls

Whether a callee accepts a call, and what the call then returns. A call says which type the
caller wants back and which types it passes. A call that is not accepted is answered by
`bottom`, and so is a call of a value type.

A set of overloads answers with the first of its members that accepts the call, even if a later
one fits better.

Main statements: how each shape answers.
-/

namespace TypedCalls

/-- The type that a caller wants back and the types that it passes. -/
structure Call where
  wanted : Ty
  args : List Ty
  deriving DecidableEq, Repr

/-! ### Answers of the shapes -/

/-- A signature takes exactly what it declares: it is called for its result, with as many
arguments as it has parameters, each of the type of its parameter. -/
def Signature.answer (s : Signature) (call : Call) : Ty :=
  if s.result ≠ call.wanted ∨ s.params.length ≠ call.args.length then
    .bottom
  else if ∀ pair ∈ s.params.zip call.args, pair.1 = pair.2 then
    s.result
  else
    .bottom

/-- A minimum or maximum takes two or more arguments below its bound. -/
def minMaxAnswer (bound result : Prim) (call : Call) : Ty :=
  if call.wanted = .prim result ∧ 2 ≤ call.args.length ∧
      ∀ t ∈ call.args, t.IsSubtype (.prim bound) then
    .prim result
  else
    .bottom

/-- The fewest arguments of a minimum or maximum. -/
def minMaxParams (bound : Prim) : List Ty :=
  [.prim bound, .prim bound]

/-- What a foreign function can be called for. -/
def foreignResults : List Prim :=
  [.void, .double, .signed]

/-- What can be passed to a foreign function. -/
def foreignArguments : List Prim :=
  [.double, .signed, .fixnum]

/-- A foreign function takes any number of arguments of its list and returns what is wanted. -/
def foreignAnswer (call : Call) : Ty :=
  if call.wanted.IsAmong foreignResults ∧ ∀ t ∈ call.args, t.IsAmong foreignArguments then
    call.wanted
  else
    .bottom

/-- The types at or below which the argument of the rounding function lies. -/
def froundBounds : List Prim :=
  [.floatish, .maybeDouble, .signed, .unsigned]

/-- The rounding function takes one number and returns a float, whatever is wanted. -/
def froundAnswer (call : Call) : Ty :=
  match call.args with
  | [t] => if ∃ p ∈ froundBounds, t.IsSubtype (.prim p) then .prim .float else .bottom
  | _ => .bottom

/-- The answer of a compound type with a signature of its own, of a function or of a minimum or
maximum. -/
def Node.ownAnswer? : Node → Call → Option Ty
  | function signature, call => some (signature.answer call)
  | minMax bound result, call => some (minMaxAnswer bound result call)
  | _, _ => none

/-- A minimum or maximum takes the fewest arguments that it can have. -/
theorem minMaxAnswer_minMaxParams (bound result : Prim) :
    minMaxAnswer bound result ⟨.prim result, minMaxParams bound⟩ = .prim result := by
  simp [minMaxAnswer, minMaxParams]

/-- An answer, if it accepts. -/
def Ty.accepted? (t : Ty) : Option Ty :=
  if t = .bottom then none else some t

namespace Arena

/-- Put a call to a type. -/
def ask (a : Arena) (call : Call) : Ty → Query Ty
  | .prim _ => pure .bottom
  | .compound handle =>
    match a.get? handle with
    | none => throw (.notFound handle)
    | some (.function signature) => pure (signature.answer call)
    | some (.overloads members) => do
      let accepted ← members.findSomeM? fun t => do
        let found ← a |>.ask call t
        return found.accepted?
      return accepted.getD .bottom
    | some (.minMax bound result) => pure (minMaxAnswer bound result call)
    | some .foreign => pure (foreignAnswer call)
    | some .fround => pure (froundAnswer call)
    | some (.table _ signature) =>
      match a.function? signature with
      | some s => pure (s.answer call)
      | none => throw (.notFunction signature)
partial_fixpoint

/-- What a call of a type returns: `bottom` if the type does not accept the call. -/
def answer (a : Arena) (callee : Ty) (call : Call) : Except QueryError Ty :=
  (a.ask call callee).outcome

/-! ### Answers in an arena -/

section

variable {a : Arena} {handle : Handle}

/-- Value types cannot be called. -/
@[simp] theorem answer_prim (a : Arena) (p : Prim) (call : Call) :
    a.answer (.prim p) call = .ok .bottom := by
  rw [answer, ask, Query.outcome_pure]

/-- A compound type that the arena does not hold cannot be asked. -/
theorem answer_of_get?_eq_none (h : a.get? handle = none) (call : Call) :
    a.answer (.compound handle) call = .error (.notFound handle) := by
  rw [answer, ask, h]
  rfl

theorem answer_function {s : Signature} (h : a.get? handle = some (.function s)) (call : Call) :
    a.answer (.compound handle) call = .ok (s.answer call) := by
  rw [answer, ask, h]
  rfl

/-- A set of overloads puts the call to its members in order, until one accepts. -/
theorem answer_overloads {members : List Ty} (h : a.get? handle = some (.overloads members))
    (call : Call) :
    a.answer (.compound handle) call = do
      let accepted ← members.findSomeM? fun t => Ty.accepted? <$> a.answer t call
      return accepted.getD .bottom := by
  rw [answer, ask, h]
  simp only [Query.outcome_bind, Query.outcome_findSomeM?, Query.outcome_pure]
  rfl

theorem answer_minMax {bound result : Prim} (h : a.get? handle = some (.minMax bound result))
    (call : Call) : a.answer (.compound handle) call = .ok (minMaxAnswer bound result call) := by
  rw [answer, ask, h]
  rfl

theorem answer_foreign (h : a.get? handle = some .foreign) (call : Call) :
    a.answer (.compound handle) call = .ok (foreignAnswer call) := by
  rw [answer, ask, h]
  rfl

theorem answer_fround (h : a.get? handle = some .fround) (call : Call) :
    a.answer (.compound handle) call = .ok (froundAnswer call) := by
  rw [answer, ask, h]
  rfl

/-- A table of functions answers as its signature does. -/
theorem answer_table {length : UInt32} {signature : Ty} {s : Signature}
    (h : a.get? handle = some (.table length signature)) (hs : a.function? signature = some s)
    (call : Call) : a.answer (.compound handle) call = .ok (s.answer call) := by
  simp only [answer, ask, h, hs]
  rfl

end

end Arena

end TypedCalls
