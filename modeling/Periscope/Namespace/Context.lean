import Periscope.Pairs
import Periscope.Session

/-!
# Joining a process's namespaces and coming back

A context is used once: it is created, attached and detached. Attaching opens each
requested namespace of the caller and of the target, then enters the target's in joining
order. A namespace other than the mount namespace that cannot be joined is left out.
Detaching enters the caller's namespaces again, goes back to its directory and closes
every handle. Notices are suppressed from the first entering to the last.
-/

namespace Periscope

/-- How the system answers requests about namespaces and the working directory. -/
structure NamespaceSystem (σ : Type) where
  /-- Opens an owner's namespace of a kind; an error means that there is no handle. -/
  openNamespace : Owner → NamespaceKind → σ → Option IoError × σ
  /-- Moves the caller into the namespace of a handle; an error means that nothing moved. -/
  enterNamespace : Handle → σ → Option IoError × σ
  /-- Gives a handle back, which is gone even if that fails. -/
  closeNamespace : Handle → σ → Option IoError × σ
  /-- The working directory of the caller. -/
  currentDirectory : σ → Except IoError String × σ
  /-- Moves the caller to a directory. -/
  changeDirectory : String → σ → Option IoError × σ

/-- A requested namespace that was not joined. -/
structure SkippedNamespace where
  /-- The kind that was requested. -/
  kind : NamespaceKind
  /-- The step that failed. -/
  stage : JoinStage
  /-- Why it failed. -/
  cause : IoError
  deriving Repr, DecidableEq

/-- A reversible stay in the namespaces of a process. -/
structure ProcessContext where
  /-- The process whose namespaces are joined. -/
  pid : Int32
  /-- The kinds to join, in joining order and each once. -/
  requested : List NamespaceKind
  /-- Where the context is in its life. -/
  state : ContextState := .created
  /-- The open handles of the caller's namespaces by kind. -/
  hostHandles : List (NamespaceKind × Handle) := []
  /-- The open handles of the target's namespaces by kind. -/
  targetHandles : List (NamespaceKind × Handle) := []
  /-- The kinds of which the caller entered the target's namespace, in order. -/
  entered : List NamespaceKind := []
  /-- The requested kinds that were left out, in the order in which they failed. -/
  skipped : List SkippedNamespace := []
  /-- The caller's directory before the first entering, if it could be told. -/
  homeDirectory : Option String := none
  deriving DecidableEq

variable {σ : Type} (system : NamespaceSystem σ)

namespace Action

/-- Opens a namespace. -/
def openNamespace (owner : Owner) (kind : NamespaceKind) : Action σ (Except IoError Handle) := do
  match ← ask (system.openNamespace owner kind) with
  | some cause =>
    record (.openFailed owner kind)
    return .error cause
  | none =>
    let id := (← get).nextHandle
    modify fun s => { s with nextHandle := id + 1 }
    record (.opened ⟨id, owner, kind⟩)
    return .ok ⟨id, owner, kind⟩

/-- Enters the namespace of a handle. -/
def enterNamespace (handle : Handle) : Action σ (Option IoError) := do
  let failure ← ask (system.enterNamespace handle)
  record (if failure.isSome then .enterFailed handle else .entered handle)
  return failure

/-- Closes a handle. A failure is only noticed: the handle is gone in any case. -/
def closeNamespace (handle : Handle) : Action σ Unit := do
  match ← ask (system.closeNamespace handle) with
  | some cause =>
    record (.closeFailed handle)
    notice (.handleNotClosed handle.kind cause)
  | none => record (.closed handle)

/-- Closes handles in order. -/
def closeHandles : List Handle → Action σ Unit
  | [] => pure ()
  | handle :: rest => do
    closeNamespace system handle
    closeHandles rest

/-- Opens a namespace of the caller and the same of a process. Either both stay open or
none. -/
def openPair (pid : Int32) (kind : NamespaceKind) :
    Action σ (Except IoError (Handle × Handle)) := do
  match ← openNamespace system .caller kind with
  | .error cause => return .error cause
  | .ok host =>
    match ← openNamespace system (.process pid) kind with
    | .ok target => return .ok (host, target)
    | .error cause =>
      closeNamespace system host
      return .error cause

/-- Tries to enter the namespaces of handles again and collects the failures. A failure
with the mount namespace is kept apart. -/
def reenter : List Handle → Action σ (Option IoError × List (NamespaceKind × IoError))
  | [] => return (none, [])
  | handle :: rest => do
    let failure ← enterNamespace system handle
    let (lost, failures) ← reenter rest
    return match failure with
      | none => (lost, failures)
      | some cause =>
        if handle.kind.isMandatory then (some cause, failures)
        else (lost, (handle.kind, cause) :: failures)

/-- Tells the operator several things. -/
def notices : List Notice → Action σ Unit
  | [] => pure ()
  | n :: rest => do
    notice n
    notices rest

end Action

namespace ProcessContext

open Periscope.Action

/-- A new context for a process, with the requested namespaces in joining order. -/
def new (pid : Int32) (namespaces : List NamespaceKind) : ProcessContext :=
  { pid, requested := NamespaceKind.joiningOrder namespaces }

/-- The number of handles that are open. -/
def openHandles (c : ProcessContext) : Nat := c.hostHandles.length + c.targetHandles.length

/-- The open handles, first those of the caller's namespaces. -/
def handles (c : ProcessContext) : List Handle :=
  c.hostHandles.map Prod.snd ++ c.targetHandles.map Prod.snd

/-- The caller's handles of the namespaces that were entered, in the order of entering. A
kind without such a handle is passed over. -/
def enteredHandles (c : ProcessContext) : List Handle :=
  c.entered.filterMap fun kind => Pairs.find? kind c.hostHandles

/-- Opens the namespaces of the given kinds. Stops at a mount namespace that cannot be
opened. -/
def openAll : List NamespaceKind → ProcessContext → Action σ (Option CrawlError × ProcessContext)
  | [], c => return (none, c)
  | kind :: rest, c => do
    match ← openPair system c.pid kind with
    | .ok (host, target) =>
      openAll rest { c with
        hostHandles := Pairs.insert kind host c.hostHandles
        targetHandles := Pairs.insert kind target c.targetHandles }
    | .error cause =>
      if kind.isMandatory then return (some (.namespaceAttach kind cause), c)
      else
        notice (.namespaceNotOpened c.pid kind cause)
        openAll rest { c with skipped := c.skipped ++ [⟨kind, .opening, cause⟩] }

/-- Enters the namespaces of the given handles. Stops at a mount namespace that cannot
be entered. -/
def enterAll : List Handle → ProcessContext → Action σ (Option CrawlError × ProcessContext)
  | [], c => return (none, c)
  | handle :: rest, c => do
    match ← enterNamespace system handle with
    | none => enterAll rest { c with entered := c.entered ++ [handle.kind] }
    | some cause =>
      if handle.kind.isMandatory then return (some (.namespaceAttach handle.kind cause), c)
      else enterAll rest { c with skipped := c.skipped ++ [⟨handle.kind, .entering, cause⟩] }

/-- Closes all handles of a context. -/
def closeAll (c : ProcessContext) : Action σ ProcessContext := do
  closeHandles system c.handles
  return { c with hostHandles := [], targetHandles := [] }

/-- Goes back to the caller's directory, if it is known and can be reached at all. -/
def goHome (c : ProcessContext) (reachable : Bool) : Action σ (Option IoError) :=
  match reachable, c.homeDirectory with
  | true, some path => do
    match ← ask (system.changeDirectory path) with
    | some cause => return some cause
    | none =>
      record (.directoryChanged path)
      return none
  | _, _ => return none

/-- What the operator is told of a stay that is over. -/
def departureNotices (c : ProcessContext) (failures : List (NamespaceKind × IoError))
    (homeless : Option IoError) : List Notice :=
  c.skipped.map (fun s => .namespaceSkipped c.pid s.kind s.stage s.cause) ++
    failures.map (fun f => .namespaceNotRestored f.1 f.2) ++
    homeless.toList.map .directoryNotRestored

/-- Leaves the target's namespaces. Everything is tried whatever failed before; only the
loss of the caller's mount namespace is an error, and then the directory is left alone. -/
def detach (c : ProcessContext) : Action σ (Option CrawlError × ProcessContext) := do
  if c.state ≠ .attached then
    notice (.detachedWithoutAttach c.pid c.state)
    return (none, c)
  else
    let (lost, failures) ← reenter system c.enteredHandles
    let homeless ← goHome system c lost.isNone
    resume
    notices (c.departureNotices failures homeless)
    let c ← closeAll system { c with state := .detached }
    return (lost.map (.namespaceRestore .mnt), c)

/-- The caller's directory, as far as it can be told. -/
def captureDirectory : Action σ (Option String) := do
  match ← ask system.currentDirectory with
  | .ok path => return some path
  | .error cause =>
    notice (.directoryUnknown cause)
    return none

/-- Joins the target's namespaces. If that fails, everything that was done is undone. -/
def attach (c : ProcessContext) : Action σ (Option CrawlError × ProcessContext) := do
  if c.state ≠ .created then return (some (.config (.contextUsed c.pid)), c)
  else
    let c := { c with homeDirectory := ← captureDirectory system }
    match ← openAll system c.requested c with
    | (some failure, c) =>
      let c ← closeAll system c
      return (some failure, { c with state := .detached })
    | (none, c) =>
      suppress
      let targets := c.targetHandles.map Prod.snd
      match ← enterAll system targets { c with state := .attached } with
      | (none, c) => return (none, c)
      | (some failure, c) =>
        let (lost, c) ← detach system c
        return (some (lost.getD failure), c)

/-- Gives up a context. If it is still attached it is detached, and losing the caller's
mount namespace then ends the program. -/
def drop (c : ProcessContext) : Call σ Unit := do
  if c.state = .attached then
    let (lost, _) ← Call.perform (detach system c)
    match lost with
    | none => pure ()
    | some cause =>
      Call.perform (notice (.hostLost none cause))
      Call.halt .aborted

end ProcessContext

end Periscope
