import Periscope.Cgroup.SampleCache
import Periscope.Namespace.Handle
import Periscope.Notice
import Periscope.Panic

/-!
# The state of a running program

A session holds the world outside the program, whatever its type, and the program's own
state: how many scopes suppress notices, the number of the next handle, the latest sample
of each container and whether the preload hooks have run. The journal lists in order what
was done and noticed. An action always returns; a call may stop on the way.
-/

namespace Periscope

/-- Something that happened in a session. -/
inductive Entry where
  /-- A namespace was opened. -/
  | opened (handle : Handle)
  /-- A namespace could not be opened. -/
  | openFailed (owner : Owner) (kind : NamespaceKind)
  /-- The namespace of a handle was entered. -/
  | entered (handle : Handle)
  /-- It could not be entered. -/
  | enterFailed (handle : Handle)
  /-- A handle was closed. -/
  | closed (handle : Handle)
  /-- A handle was given back with an error. -/
  | closeFailed (handle : Handle)
  /-- The caller's directory was changed. -/
  | directoryChanged (path : String)
  /-- A scope that suppresses notices was opened. -/
  | suppressed
  /-- Such a scope was ended. -/
  | resumed
  /-- The operator was told something, with so many of these scopes open. -/
  | noticed (notice : Notice) (depth : Nat)
  /-- A preload hook was started. -/
  | hookRan (name : String)
  /-- A reader of replies was started. -/
  | readerStarted
  /-- A worker was started. -/
  | workerStarted
  /-- A worker has ended and is gone. -/
  | workerReaped
  deriving DecidableEq

/-- Whether the preload hooks have run. A hook that stopped spoils all later attempts. -/
inductive Loading where
  /-- No hook was started. -/
  | fresh
  /-- All hooks have run. -/
  | loaded
  /-- A hook was started and not all have run. -/
  | poisoned
  deriving Repr, DecidableEq

/-- A running program in its world. -/
structure Session (σ : Type) where
  /-- The world outside the program. -/
  world : σ
  /-- How many scopes suppress notices. -/
  depth : Nat := 0
  /-- The number of the next handle. -/
  nextHandle : Nat := 0
  /-- The latest sample of each container. -/
  samples : SampleCache := []
  /-- Whether the preload hooks have run. -/
  loading : Loading := .fresh
  /-- What was done and noticed, in order. -/
  journal : List Entry := []

/-- Something the program does that always returns. -/
abbrev Action (σ : Type) := StateM (Session σ)

/-- Something the program does that may stop on the way. -/
abbrev Call (σ : Type) := ExceptT Halt (Action σ)

variable {σ α : Type}

/-- Adds an entry to the journal. -/
def Session.record (s : Session σ) (entry : Entry) : Session σ :=
  { s with journal := s.journal ++ [entry] }

namespace Action

/-- Asks the world, which may change by that. -/
def ask (answer : σ → α × σ) : Action σ α := fun s =>
  let (result, world) := answer s.world
  (result, { s with world })

/-- Adds an entry to the journal. -/
def record (entry : Entry) : Action σ Unit := modify (·.record entry)

/-- Tells the operator. -/
def notice (n : Notice) : Action σ Unit := modify fun s => s.record (.noticed n s.depth)

/-- Opens a scope in which notices are suppressed. -/
def suppress : Action σ Unit := modify fun s => { s with depth := s.depth + 1 }.record .suppressed

/-- Ends one such scope, if there is one. -/
def resume : Action σ Unit := modify fun s => { s with depth := s.depth - 1 }.record .resumed

end Action

namespace Call

/-- Ends the call. -/
def halt (h : Halt) : Call σ α := throw h

/-- Does something that always returns. -/
def perform (action : Action σ α) : Call σ α := ExceptT.lift action

/-- Goes on unless a sum or product left its range. -/
def checked : Except Panic α → Call σ α
  | .ok value => pure value
  | .error cause => throw (.panicked cause)

/-- Asks the world for something that may leave its range. -/
def ask (answer : σ → Except Panic α × σ) : Call σ α := do
  checked (← perform (Action.ask answer))

end Call

end Periscope
