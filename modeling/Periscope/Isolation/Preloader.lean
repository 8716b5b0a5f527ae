import Periscope.Session

/-!
# Preloading

Some facilities of the host are looked up when they are first used. Hooks use them once
before any namespace is entered, so that they are found on the host. The hooks run in
order, once in a session. If one of them stops, no later attempt runs any. Behind the last
hook a child is started that ends at once, so that starting and reaping one has been done
on the host too. What goes wrong with it is told and stops nothing.
-/

namespace Periscope

/-- Something to be used before a namespace is entered. -/
structure Hook where
  /-- The name of what is used. -/
  name : String
  /-- Whether using it stops the call. -/
  panics : Bool := false
  deriving Repr, DecidableEq

/-- What becomes of a child that is started only to end at once. The system tells a status or
a cause in words. -/
inductive ChildEnding where
  /-- It ended as it should. -/
  | orderly
  /-- It ended in another way. -/
  | odd (status : String)
  /-- It was started, and it cannot be told how it ended. -/
  | unreaped (cause : String)
  /-- It could not be started. -/
  | unstarted (cause : String)
  deriving Repr, DecidableEq

namespace ChildEnding

/-- What the operator is told of it. -/
def notice? : ChildEnding → Option Notice
  | .orderly => none
  | .odd status => some (.childEndedOddly status)
  | .unreaped cause => some (.childNotReaped cause)
  | .unstarted cause => some (.childNotStarted cause)

/-- The answer of a system on which it always ends as it should. -/
def always {σ : Type} (w : σ) : ChildEnding × σ := (.orderly, w)

end ChildEnding

namespace Preloader

variable {σ : Type}

/-- The hooks of the program: looking up a user and the time zone. -/
def standardHooks : List Hook := [{ name := "nss" }, { name := "timezone" }]

/-- Runs hooks in order up to one that stops. -/
def runHooks : List Hook → Call σ Unit
  | [] => pure ()
  | hook :: rest => do
    Call.perform (Action.record (.hookRan hook.name))
    if hook.panics then Call.halt (.panicked (.hook hook.name)) else runHooks rest

/-- Starts a child that ends at once, and waits for it. -/
def tryChild (child : σ → ChildEnding × σ) : Action σ Unit := do
  match (← Action.ask child).notice? with
  | some n => Action.notice n
  | none => pure ()

/-- Runs the hooks and tries a child unless that was done. The session counts as spoiled until
the last hook is through. -/
def ensureLoaded (hooks : List Hook) (child : σ → ChildEnding × σ := ChildEnding.always) :
    Call σ Unit := do
  match (← get).loading with
  | .loaded => pure ()
  | .poisoned => Call.halt (.panicked .poisoned)
  | .fresh =>
    modify fun s => { s with loading := .poisoned }
    runHooks hooks
    Call.perform (tryChild child)
    modify fun s => { s with loading := .loaded }

/-- Whether all hooks have run. -/
def isLoaded (s : Session σ) : Bool := s.loading = .loaded

end Preloader

end Periscope
