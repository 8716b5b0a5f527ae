import Periscope.Error
import Periscope.Feature

/-!
# Notices

What a crawl tells its operator besides the result. A notice has a level, a message and
named details.
-/

namespace Periscope

/-- How serious a notice is. -/
inductive Level where
  | warning
  | error
  deriving Repr, DecidableEq

/-- Where a process context is in its life. -/
inductive ContextState where
  | created
  | attached
  | detached
  deriving Repr, DecidableEq

/-- The name of a state. -/
def ContextState.name : ContextState → String
  | .created => "Created"
  | .attached => "Attached"
  | .detached => "Detached"

/-- The step at which a namespace was left out. -/
inductive JoinStage where
  | opening
  | entering
  deriving Repr, DecidableEq

/-- The name of a step. -/
def JoinStage.name : JoinStage → String
  | .opening => "open"
  | .entering => "enter"

/-- Something the operator is told. -/
inductive Notice where
  /-- The caller's directory cannot be told. -/
  | directoryUnknown (cause : IoError)
  /-- The caller could not go back to its directory. -/
  | directoryNotRestored (cause : IoError)
  /-- A namespace cannot be opened and is left out. -/
  | namespaceNotOpened (pid : Int32) (kind : NamespaceKind) (cause : IoError)
  /-- A namespace was left out of a stay that is over. -/
  | namespaceSkipped (pid : Int32) (kind : NamespaceKind) (stage : JoinStage) (cause : IoError)
  /-- A namespace of the caller could not be entered again. -/
  | namespaceNotRestored (kind : NamespaceKind) (cause : IoError)
  /-- Closing a handle failed. -/
  | handleNotClosed (kind : NamespaceKind) (cause : IoError)
  /-- A context that is not attached was detached. -/
  | detachedWithoutAttach (pid : Int32) (state : ContextState)
  /-- The host's mount namespace cannot be entered again. -/
  | hostLost (pid : Option Int32) (cause : CrawlError)
  /-- An isolated call failed. -/
  | callFailed (pid : Int32) (cause : CrawlError)
  /-- A worker did not end in time. -/
  | workerStuck
  /-- The child of the preloader could not be started. -/
  | childNotStarted (cause : String)
  /-- It was started, and it cannot be told how it ended. -/
  | childNotReaped (cause : String)
  /-- It ended otherwise than it should. -/
  | childEndedOddly (status : String)
  /-- Two readings have different numbers of cores. -/
  | coreCountChanged (container : String) (before after : Nat)
  /-- The host's processor times cannot be read. -/
  | hostTimesUnavailable (cause : IoError)
  /-- A feature could not be collected. -/
  | featureFailed (container : String) (feature : Feature) (cause : CrawlError)
  deriving DecidableEq

namespace Notice

/-- Losing the host's view is an error, everything else a warning. -/
def level : Notice → Level
  | .hostLost .. => .error
  | _ => .warning

/-- The message of a notice. -/
def message : Notice → String
  | .directoryUnknown .. => "cannot capture working directory"
  | .directoryNotRestored .. => "failed to restore working directory"
  | .namespaceNotOpened .. => "cannot open namespace"
  | .namespaceSkipped .. => "namespace skipped"
  | .namespaceNotRestored .. => "failed to restore host namespace"
  | .handleNotClosed .. => "failed to close namespace handle"
  | .detachedWithoutAttach .. => "detach without attach"
  | .hostLost .. => "host mount namespace lost, aborting"
  | .callFailed .. => "isolated call failed"
  | .workerStuck => "worker did not exit in time, killing"
  | .childNotStarted .. => "failed to fork preload child"
  | .childNotReaped .. => "failed to reap preload child"
  | .childEndedOddly .. => "preload child exited abnormally"
  | .coreCountChanged .. => "core count changed between samples"
  | .hostTimesUnavailable .. => "host CPU times unavailable"
  | .featureFailed .. => "feature failed"

/-- The details of a notice by name. -/
def details : Notice → List (String × String)
  | .directoryUnknown cause => [("error", cause.message)]
  | .directoryNotRestored cause => [("error", cause.message)]
  | .namespaceNotOpened pid kind cause =>
    [("pid", toString pid), ("kind", kind.name), ("error", cause.message)]
  | .namespaceSkipped pid kind stage cause =>
    [("pid", toString pid), ("kind", kind.name), ("stage", stage.name), ("error", cause.message)]
  | .namespaceNotRestored kind cause => [("kind", kind.name), ("error", cause.message)]
  | .handleNotClosed kind cause => [("kind", kind.name), ("error", cause.message)]
  | .detachedWithoutAttach pid state => [("pid", toString pid), ("state", state.name)]
  | .hostLost none cause => [("error", cause.message)]
  | .hostLost (some pid) cause => [("pid", toString pid), ("error", cause.message)]
  | .callFailed pid cause => [("pid", toString pid), ("error", cause.message)]
  | .workerStuck => []
  | .childNotStarted cause => [("error", cause)]
  | .childNotReaped cause => [("error", cause)]
  | .childEndedOddly status => [("status", status)]
  | .coreCountChanged container before after =>
    [("container", container), ("before", toString before), ("after", toString after)]
  | .hostTimesUnavailable cause => [("error", cause.message)]
  | .featureFailed container feature cause =>
    [("container", container), ("feature", feature.name), ("error", cause.message)]

end Notice

end Periscope
