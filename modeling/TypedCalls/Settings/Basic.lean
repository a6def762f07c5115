/-!
# Settings of an arena

How much room an arena sets aside at first, and how many types it holds at most. The room is an
advice and never limits anything.
-/

namespace TypedCalls

/-- The settings of an arena. -/
structure Settings where
  capacity : UInt64 := 64
  limit : Option UInt64 := none
  deriving DecidableEq, Repr, Inhabited

namespace Settings

/-- Room for 64 types, and no limit. -/
def standard : Settings := {}

/-- Set aside another amount of room. -/
def withCapacity (s : Settings) (capacity : UInt64) : Settings :=
  { s with capacity }

/-- Hold at most so many types. -/
def withLimit (s : Settings) (limit : UInt64) : Settings :=
  { s with limit := some limit }

/-- Hold any number of types. -/
def unlimited (s : Settings) : Settings :=
  { s with limit := none }

@[simp] theorem capacity_withCapacity (s : Settings) (n : UInt64) :
    (s.withCapacity n).capacity = n := rfl

@[simp] theorem limit_withCapacity (s : Settings) (n : UInt64) :
    (s.withCapacity n).limit = s.limit := rfl

@[simp] theorem capacity_withLimit (s : Settings) (n : UInt64) :
    (s.withLimit n).capacity = s.capacity := rfl

@[simp] theorem limit_withLimit (s : Settings) (n : UInt64) :
    (s.withLimit n).limit = some n := rfl

@[simp] theorem capacity_unlimited (s : Settings) : s.unlimited.capacity = s.capacity := rfl

@[simp] theorem limit_unlimited (s : Settings) : s.unlimited.limit = none := rfl

end Settings

end TypedCalls
