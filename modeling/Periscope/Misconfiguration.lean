import Periscope.Text.Numeral

/-!
# What can be wrong with what the user asks for

Words that name nothing, targets that cannot be read, bounds that must be positive, and
a process context that is used a second time.
-/

namespace Periscope

/-- Why a request is refused before anything is done. -/
inductive Misconfiguration where
  /-- A word names no kind of namespace. -/
  | unknownNamespace (word : String)
  /-- A word names no feature. -/
  | unknownFeature (word : String)
  /-- A target has no colon. -/
  | targetWithoutPid (target : String)
  /-- A target has nothing before its last colon. -/
  | targetWithoutId (target : String)
  /-- A target's process is no number. -/
  | targetPid (target : String) (cause : NumeralError)
  /-- An isolated call may take no time. -/
  | zeroTimeout
  /-- No time passes between the readings of a first sample. -/
  | zeroColdStart
  /-- A process context is attached a second time. -/
  | contextUsed (pid : Int32)
  /-- Another reason, in words. -/
  | stated (message : String)
  deriving Repr, DecidableEq

/-- The wording of a refusal. -/
def Misconfiguration.message : Misconfiguration → String
  | .unknownNamespace word => "unknown namespace kind: " ++ word
  | .unknownFeature word => "unknown feature: " ++ word
  | .targetWithoutPid target => "target must be <container_id>:<pid>, got " ++ target
  | .targetWithoutId target => "empty container id in target " ++ target
  | .targetPid target cause => "invalid pid in target " ++ target ++ ": " ++ cause.message
  | .zeroTimeout => "isolation_timeout_secs must be positive"
  | .zeroColdStart => "cold_start_interval_ms must be positive"
  | .contextUsed pid => "process context for pid " ++ toString pid ++ " already used"
  | .stated message => message

end Periscope
