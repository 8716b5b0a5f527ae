import Periscope.Channel.Frame

/-!
# Workers

A worker is a process of its own that runs one probe and sends back one reply. What its
caller sees of it is the bytes it writes, whether it closes the pipe, and how it ends.
-/

namespace Periscope

/-- How a process ended. -/
inductive ExitStatus where
  /-- The process ended by itself. -/
  | exited (code : UInt8)
  /-- A signal ended it. -/
  | killed (signal : Nat)
  deriving Repr, DecidableEq

/-- The names of the signals from 1 on. The real-time signals, which follow them, have
none. -/
def signalNames : List String :=
  ["SIGHUP", "SIGINT", "SIGQUIT", "SIGILL", "SIGTRAP", "SIGABRT", "SIGBUS", "SIGFPE", "SIGKILL",
   "SIGUSR1", "SIGSEGV", "SIGUSR2", "SIGPIPE", "SIGALRM", "SIGTERM", "SIGSTKFLT", "SIGCHLD",
   "SIGCONT", "SIGSTOP", "SIGTSTP", "SIGTTIN", "SIGTTOU", "SIGURG", "SIGXCPU", "SIGXFSZ",
   "SIGVTALRM", "SIGPROF", "SIGWINCH", "SIGIO", "SIGPWR", "SIGSYS"]

/-- The name of a signal. -/
def signalName? : Nat → Option String
  | 0 => none
  | n + 1 => signalNames[n]?

/-- The wording of an end. Which signal it was can be told only of one with a name. -/
def ExitStatus.text : ExitStatus → String
  | .exited code => "exited with " ++ toString code
  | .killed signal =>
    match signalName? signal with
    | some name => "killed by " ++ name
    | none => "unknown (EINVAL: Invalid argument)"

/-- The end of a process that its caller had to kill. -/
def ExitStatus.killedByCaller : ExitStatus := .killed 9

/-- What becomes of a probe in its worker. It returns, it panics, it ends its process
without a reply, or it never comes to an end, with the pipe closed or not. -/
inductive ProbeEnding (α : Type) where
  /-- The probe returned a value or a failure. -/
  | returned (reply : Reply α)
  /-- It stopped, which the worker survives. -/
  | panicked
  /-- It ended its process. -/
  | ended (status : ExitStatus)
  /-- It never came to an end; it may have closed the pipe. -/
  | hung (closes : Bool)

/-- A sequence whose items are made one after another, which may stop on the way. -/
inductive Items (α : Type) where
  /-- There are no more items. -/
  | done
  /-- An item with what follows it. -/
  | item (value : α) (rest : Items α)
  /-- Making the next item stops. -/
  | panicked

namespace Items

variable {α : Type}

/-- The sequence of a list. -/
def ofList : List α → Items α
  | [] => .done
  | value :: rest => .item value (ofList rest)

/-- All items of a sequence that comes to its end. -/
def collect : Items α → Option (List α)
  | .done => some []
  | .item value rest => (collect rest).map (value :: ·)
  | .panicked => none

/-- All items of a list are collected. -/
theorem collect_ofList (values : List α) : (ofList values).collect = some values := by
  induction values with
  | nil => rfl
  | cons value rest ih => simp [ofList, collect, ih]

end Items

/-- What becomes of a probe whose sequence is collected in the worker. -/
def ProbeEnding.collected {α : Type} : ProbeEnding (Items α) → ProbeEnding (List α)
  | .returned (.ok items) =>
    match items.collect with
    | some values => .returned (.ok values)
    | none => .panicked
  | .returned (.error failure) => .returned (.error failure)
  | .panicked => .panicked
  | .ended status => .ended status
  | .hung closes => .hung closes

/-- What becomes of a probe whose value is written as JSON. A worker whose reply JSON cannot
express ends with 2. -/
def ProbeEnding.encoded {α : Type} (toJson : α → Option Json) : ProbeEnding α → ProbeEnding Json
  | .returned reply =>
    match Reply.inJson? toJson reply with
    | some reply => .returned reply
    | none => .ended (.exited 2)
  | .panicked => .panicked
  | .ended status => .ended status
  | .hung closes => .hung closes

/-- What the caller sees of a worker before its patience ends. Without an exit status the
worker is still there then. -/
structure Conduct where
  /-- The bytes on the pipe. -/
  written : ByteArray
  /-- Whether the pipe is closed behind them. -/
  closes : Bool
  /-- How the worker ended. -/
  exit : Option ExitStatus

namespace Conduct

/-- What the caller reads. -/
def stream (conduct : Conduct) : Stream :=
  { arrivals := if conduct.written.size = 0 then [] else [.bytes conduct.written]
    ending := if conduct.closes then .closed else .silent }

/-- A worker that sends a reply. It ends with 0 after a value, with 1 after a failure and
with 2 if the reply cannot be sent. -/
def ofReply {α : Type} (toJson : α → Json) (reply : Reply α) : Conduct :=
  match Frame.encode toJson reply with
  | .ok frame => ⟨frame, true, some (.exited (match reply with | .ok _ => 0 | .error _ => 1))⟩
  | .error _ => ⟨ByteArray.empty, true, some (.exited 2)⟩

/-- The failure that stands for a probe that panicked. -/
def panicFailure : ProbeError := ⟨"Panic", "probe panicked"⟩

/-- The conduct of a worker, given what becomes of its probe. -/
def ofProbe {α : Type} (toJson : α → Json) : ProbeEnding α → Conduct
  | .returned reply => ofReply toJson reply
  | .panicked => ofReply toJson (.error panicFailure)
  | .ended status => ⟨ByteArray.empty, true, some status⟩
  | .hung closes => ⟨ByteArray.empty, closes, none⟩

end Conduct

end Periscope
