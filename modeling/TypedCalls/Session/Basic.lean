import TypedCalls.Arena.Call
import TypedCalls.Arena.Draft
import TypedCalls.Pool
import TypedCalls.Settings.OfDatum

/-!
# Sessions

A session is a list of steps that make arenas or carry out commands on arenas, drafts and types.
Arenas and drafts are numbered in the order in which they are made. A command can refer to the
type that an earlier step made. A command that refers to something that is not there changes
nothing.
-/

namespace TypedCalls

/-- A type as a command writes it: a value type, or the type that the step at a position has
made. -/
inductive Operand where
  | prim (p : Prim)
  | made (position : Nat)
  deriving DecidableEq, Repr

/-- What a step does, unless it makes an arena. -/
inductive Command where
  | function (result : Operand) (params : List Operand)
  | overloads (members : List Operand)
  | minMax (bound result : Prim)
  | foreign
  | fround
  | table (length : UInt32) (signature : Operand)
  /-- Start a function type. -/
  | draftFunction (result : Operand)
  /-- Start a set of overloads. -/
  | draftOverloads
  /-- Add a part to a draft. -/
  | extend (draft : Nat) (part : Operand)
  /-- Start a new draft as a copy of another. -/
  | copy (draft : Nat)
  /-- Build the type of a draft, which is gone then. -/
  | finish (draft : Nat)
  | name (type : Operand)
  | describe (type : Operand)
  | compare (type other : Operand)
  | convert (type : Operand)
  | call (callee wanted : Operand) (args : List Operand)
  /-- Ask a function, or a minimum or maximum, for its own answer. -/
  | callOwn (callee wanted : Operand) (args : List Operand)

/-- A step of a session. -/
inductive Step where
  /-- Make an arena, with the standard settings or with settings read from data, and report the
  size of some arena. -/
  | newArena (reported : Nat) (settings : Option Datum)
  /-- Carry out a command for an arena. -/
  | command (arena : Nat) (command : Command)

/-- The arena whose size a step reports. -/
def Step.arena : Step → Nat
  | newArena reported _ => reported
  | command arena _ => arena

/-- What an arena tells of a type. -/
structure Description where
  type : Ty
  node : Option Node
  isCallable : Bool
  isForeign : Bool
  isFround : Bool
  function : Option Signature
  overloads : Option (List Ty)
  minMax : Option (Prim × Prim)
  table : Option (UInt32 × Ty)
  deriving DecidableEq, Repr

/-- All that an arena tells of a type. -/
def Arena.describe (a : Arena) (t : Ty) : Description where
  type := t
  node := a.node? t
  isCallable := a.IsCallable t
  isForeign := a.IsForeign t
  isFround := a.IsFround t
  function := a.function? t
  overloads := a.overloads? t
  minMax := a.minMax? t
  table := a.table? t

/-- The answer to a step. -/
inductive Answer where
  /-- The command refers to something that is not there. -/
  | missing
  | arena (index : Nat) (settings : Settings)
  | refusedSettings (error : DecodeError)
  | built (handle : Handle)
  | refused (error : BuildError)
  | draft (index : Nat) (draft : Draft)
  | name (text : String)
  | description (description : Description)
  | comparison (isSubtype same sameNode : Bool)
  | conversions (type : Ty)
  | result (type : Ty)
  | ownResult (type : Option Ty)
  | failed (error : QueryError)
  deriving DecidableEq, Repr

/-- The type that an answer makes for later steps. -/
def Answer.made? : Answer → Option Ty
  | built handle => some (.compound handle)
  | result type => some type
  | _ => none

/-- An answer with the size of the arena that the step was for, if there is such an arena. -/
structure Report where
  answer : Answer
  size : Option Nat
  deriving DecidableEq, Repr

/-- The state of a session: its arenas, its drafts, and the type that each step so far has
made. -/
structure Session where
  pool : Pool
  drafts : Array (Option Draft)
  made : Array (Option Ty)
  deriving DecidableEq, Repr

namespace Session

/-- A session without steps. -/
def empty : Session :=
  ⟨.empty, #[], #[]⟩

/-- The arena of a number. -/
def arena? (s : Session) (i : Nat) : Option Arena :=
  s.pool.arenas[i]?

/-- The type of an operand. -/
def type? (s : Session) : Operand → Option Ty
  | .prim p => some (.prim p)
  | .made position => (s.made[position]?).join

/-- The types of operands. -/
def types? (s : Session) (operands : List Operand) : Option (List Ty) :=
  operands.mapM s.type?

/-- The draft of a number, unless it is finished. -/
def draft? (s : Session) (i : Nat) : Option Draft :=
  (s.drafts[i]?).join

end Session

end TypedCalls
