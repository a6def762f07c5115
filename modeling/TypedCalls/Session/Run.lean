import TypedCalls.Session.Basic

/-!
# Running a session

Each step gets one answer. A command on drafts or on a type alone needs no arena; any other looks
up its arena. If anything that a command refers to is not there, the answer says so and the arenas
and drafts are as before.

Main statement: a session has one report a step.
-/

namespace TypedCalls

namespace Session

/-- The settings of a new arena. -/
def settingsOf : Option Datum → Except DecodeError Settings
  | none => .ok .standard
  | some d => Settings.ofDatum d

/-- Make an arena. -/
def newArena (s : Session) (settings : Option Datum) : Answer × Session :=
  match settingsOf settings with
  | .error e => (.refusedSettings e, s)
  | .ok settings =>
    (.arena s.pool.arenas.size settings, { s with pool := s.pool.newArena settings })

/-- Build a compound type in an arena. There is no result if there is no such arena. -/
def build? (s : Session) (i : Nat) (node : Node) : Option (Answer × Session) :=
  match s.pool.build i node with
  | (none, _) => none
  | (some (.ok handle), pool) => some (.built handle, { s with pool })
  | (some (.error e), pool) => some (.refused e, { s with pool })

/-- Start a draft. -/
def newDraft (s : Session) (d : Draft) : Answer × Session :=
  (.draft s.drafts.size d, { s with drafts := s.drafts.push (some d) })

/-- Put a draft in its place. -/
def setDraft (s : Session) (i : Nat) (d : Option Draft) : Session :=
  { s with drafts := s.drafts.setIfInBounds i d }

/-- The answer to a question. -/
def answered {α : Type} (answer : α → Answer) : Except QueryError α → Answer
  | .ok x => answer x
  | .error e => .failed e

/-- Carry out a command for an arena. There is no result if anything that the command refers to
is not there. -/
def execute? (s : Session) (i : Nat) : Command → Option (Answer × Session)
  | .function result params => do
    let result ← s.type? result
    let params ← s.types? params
    s.build? i (.function ⟨result, params⟩)
  | .overloads members => do
    let members ← s.types? members
    s.build? i (.overloads members)
  | .minMax bound result => s.build? i (.minMax bound result)
  | .foreign => s.build? i .foreign
  | .fround => s.build? i .fround
  | .table length signature => do
    let signature ← s.type? signature
    s.build? i (.table length signature)
  | .draftFunction result => do
    let result ← s.type? result
    return s.newDraft (.ofResult result)
  | .draftOverloads => some (s.newDraft .noOverloads)
  | .extend n part => do
    let d ← s.draft? n
    let part ← s.type? part
    let d := d.add part
    return (.draft n d, s.setDraft n (some d))
  | .copy n => do
    let d ← s.draft? n
    return s.newDraft d
  | .finish n => do
    let d ← s.draft? n
    (s.setDraft n none).build? i d.node
  | .name t => do
    let a ← s.arena? i
    let t ← s.type? t
    return (answered .name (a.name t), s)
  | .describe t => do
    let a ← s.arena? i
    let t ← s.type? t
    return (.description (a.describe t), s)
  | .compare t u => do
    let a ← s.arena? i
    let t ← s.type? t
    let u ← s.type? u
    return (.comparison (t.IsSubtype u) (t = u) (a.node? t = a.node? u), s)
  | .convert t => do
    let t ← s.type? t
    return (.conversions t, s)
  | .call callee wanted args => do
    let a ← s.arena? i
    let callee ← s.type? callee
    let wanted ← s.type? wanted
    let args ← s.types? args
    return (answered .result (a.answer callee ⟨wanted, args⟩), s)
  | .callOwn callee wanted args => do
    let a ← s.arena? i
    let callee ← s.type? callee
    let wanted ← s.type? wanted
    let args ← s.types? args
    return (.ownResult ((a.node? callee).bind (·.ownAnswer? ⟨wanted, args⟩)), s)

/-- Carry out a step. -/
def execute (s : Session) : Step → Answer × Session
  | .newArena _ settings => s.newArena settings
  | .command i command => (s.execute? i command).getD (.missing, s)

/-- Carry out a step, report on it and remember the type that it makes. -/
def step (s : Session) (step : Step) : Report × Session :=
  let (answer, s) := s.execute step
  let size := (s.arena? step.arena).map Arena.size
  (⟨answer, size⟩, { s with made := s.made.push answer.made? })

/-- Carry out steps in order. -/
def run (s : Session) : List Step → List Report × Session
  | [] => ([], s)
  | first :: rest =>
    let (report, s) := s.step first
    let (reports, s) := s.run rest
    (report :: reports, s)

/-- The reports of a session. -/
def reports (steps : List Step) : List Report :=
  (empty.run steps).1

/-! ### One report a step -/

theorem length_run (s : Session) (steps : List Step) :
    (s.run steps).1.length = steps.length := by
  induction steps generalizing s with
  | nil => rfl
  | cons first rest ih => simp [run, ih]

/-- A session has a report for each step. -/
theorem length_reports (steps : List Step) : (reports steps).length = steps.length :=
  length_run empty steps

end Session

end TypedCalls
