import TypedCalls.Arena.Build

/-!
# Pools of arenas

All arenas of a program. Each new arena takes the next number for its identity; the number is
a 32-bit word and wraps around.
-/

namespace TypedCalls

/-- The arenas of a program, in the order in which they were made. -/
structure Pool where
  nextId : UInt32
  arenas : Array Arena
  deriving DecidableEq, Repr

namespace Pool

/-- What happens to a pool: a new arena, or a request to one of its arenas. -/
inductive Event where
  | newArena (settings : Settings)
  | build (arena : Nat) (node : Node)
  deriving DecidableEq, Repr

/-- A pool without arenas. -/
def empty : Pool :=
  ⟨0, #[]⟩

/-- Make an arena. -/
def newArena (p : Pool) (settings : Settings) : Pool :=
  ⟨p.nextId + 1, p.arenas.push (.empty p.nextId settings)⟩

/-- Put an arena back in its place. -/
def setArena (p : Pool) (i : Nat) (a : Arena) : Pool :=
  { p with arenas := p.arenas.setIfInBounds i a }

/-- Build a compound type in an arena. There is no answer if there is no such arena. -/
def build (p : Pool) (i : Nat) (node : Node) : Option (Except BuildError Handle) × Pool :=
  match p.arenas[i]? with
  | none => (none, p)
  | some a =>
    let (answer, a) := a.build node
    (some answer, p.setArena i a)

/-- The pool after an event. -/
def apply (p : Pool) : Event → Pool
  | .newArena settings => p.newArena settings
  | .build i node => (p.build i node).2

/-- The pool after events. -/
def applyAll (p : Pool) (events : List Event) : Pool :=
  events.foldl apply p

@[simp] theorem applyAll_nil (p : Pool) : p.applyAll [] = p := rfl

@[simp] theorem applyAll_cons (p : Pool) (event : Event) (events : List Event) :
    p.applyAll (event :: events) = (p.apply event).applyAll events := rfl

@[simp] theorem applyAll_append (p : Pool) (events later : List Event) :
    p.applyAll (events ++ later) = (p.applyAll events).applyAll later :=
  List.foldl_append ..

end Pool

end TypedCalls
