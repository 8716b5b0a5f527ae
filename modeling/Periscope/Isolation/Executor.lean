import Periscope.Channel.Receiver
import Periscope.Isolation.Preloader
import Periscope.Isolation.Worker
import Periscope.Namespace.Context

/-!
# Isolated calls

An isolated call runs a probe as if it were a process of the target. The caller joins the
target's namespaces, starts a worker that inherits them, waits for its reply for a
bounded time, makes sure that the worker is gone, and comes back in any case. If the way
back to the host's mount namespace is lost, the program ends.
-/

namespace Periscope

/-- How the system answers requests about workers. -/
structure WorkerSystem (σ : Type) where
  /-- Starts a child that ends at once, and waits for it. -/
  tryChild : σ → ChildEnding × σ
  /-- Starts a reader of replies in the background; an error means that there is none. -/
  startReader : σ → Option IoError × σ
  /-- Starts a worker; an error means that there is none. -/
  startWorker : σ → Option IoError × σ
  /-- Reads the clock that waiting is measured with. -/
  uptime : σ → Instant × σ

/-- The settings of isolated calls. -/
structure Executor where
  /-- How long to wait for a reply, and again for the worker's end. -/
  timeout : Duration := .ofSeconds 30
  /-- What is used once before any namespace is entered. -/
  hooks : List Hook := Preloader.standardHooks

/-- What runs in the worker, and how its value crosses the pipe. What becomes of the
probe depends on the session that the worker inherits. -/
structure Probe (σ α : Type) where
  /-- What the caller sees of the worker in a session. -/
  conduct : Session σ → Conduct
  /-- Reads the value back from the pipe. -/
  decoder : Json.Decoder α

/-- A probe whose value is written as JSON. -/
def Probe.of {σ α : Type} (toJson : α → Option Json) (decoder : Json.Decoder α)
    (ending : Session σ → ProbeEnding α) : Probe σ α :=
  ⟨fun s => .ofProbe (fun value => value) ((ending s).encoded toJson), decoder⟩

/-- A list as JSON, unless JSON cannot express one of its items. -/
def listJson? {α : Type} (toJson : α → Option Json) (values : List α) : Option Json :=
  (values.mapM toJson).map .array

/-- A probe for a sequence, all of which is collected in the worker and written as a JSON
array. -/
def Probe.ofItems {σ α : Type} (toJson : α → Option Json) (decoder : Json.Decoder α)
    (ending : Session σ → ProbeEnding (Items α)) : Probe σ (List α) :=
  .of (listJson? toJson) (Json.Decoder.list decoder) fun s => (ending s).collected

variable {σ α : Type} (namespaces : NamespaceSystem σ) (workers : WorkerSystem σ)

namespace Executor

/-- Waits for the worker to end, and kills it when the time is up. The end of the time
must be an instant. -/
def join (timeout : Duration) (conduct : Conduct) : Call σ ExitStatus := do
  let start ← Call.perform (Action.ask workers.uptime)
  match start.add? timeout with
  | none => Call.halt (.panicked .instantOverflow)
  | some _ =>
    let status ← match conduct.exit with
      | some status => pure status
      | none =>
        Call.perform (Action.notice .workerStuck)
        pure .killedByCaller
    Call.perform (Action.record .workerReaped)
    return status

/-- Waits for the reply of a worker and for its end. -/
def await (timeout : Duration) (pid : Int32) (decoder : Json.Decoder α) (conduct : Conduct) :
    Call σ (Except CrawlError α) := do
  match ((Receiver.start decoder conduct.stream).wait true).1 with
  | .reply reply =>
    let _ ← join workers timeout conduct
    return reply.mapError .probe
  | .broken cause =>
    let status ← join workers timeout conduct
    return .error (.workerCrashed pid (cause.message ++ "; worker status " ++ status.text))
  | .timedOut =>
    Call.perform (Action.record .workerReaped)
    return .error (.isolationTimeout pid timeout)

/-- Starts a worker and waits for it. -/
def work (timeout : Duration) (pid : Int32) (probe : Probe σ α) : Call σ (Except CrawlError α) := do
  match ← Call.perform (Action.ask workers.startWorker) with
  | some cause => return .error (.fork cause)
  | none =>
    Call.perform (Action.record .workerStarted)
    await workers timeout pid probe.decoder (probe.conduct (← get))

/-- Comes back from the target after the work is done. -/
def finish (context : ProcessContext) (outcome : Except CrawlError α) :
    Call σ (Except CrawlError α) := do
  match ← Call.perform (context.detach namespaces) with
  | (some cause, _) =>
    Call.perform (Action.notice (.hostLost context.pid cause))
    Call.halt .aborted
  | (none, _) =>
    match outcome with
    | .ok value => return .ok value
    | .error cause =>
      Call.perform (Action.notice (.callFailed context.pid cause))
      return .error cause

/-- Runs a probe in the requested namespaces of a process. -/
def run (executor : Executor) (pid : Int32) (kinds : List NamespaceKind) (probe : Probe σ α) :
    Call σ (Except CrawlError α) := do
  Preloader.ensureLoaded executor.hooks workers.tryChild
  match ← Call.perform (Action.ask workers.startReader) with
  | some cause => return .error (.fork cause)
  | none =>
    Call.perform (Action.record .readerStarted)
    match ← Call.perform ((ProcessContext.new pid kinds).attach namespaces) with
    | (some failure, _) => return .error failure
    | (none, context) =>
      let outcome ← tryCatch (work workers executor.timeout pid probe) fun halt => do
        context.drop namespaces
        throw halt
      finish namespaces context outcome

/-- Runs a probe for a sequence in the requested namespaces of a process. -/
def runSequence (executor : Executor) (pid : Int32) (kinds : List NamespaceKind)
    (toJson : α → Option Json) (decoder : Json.Decoder α)
    (ending : Session σ → ProbeEnding (Items α)) : Call σ (Except CrawlError (List α)) :=
  run namespaces workers executor pid kinds (.ofItems toJson decoder ending)

end Executor

end Periscope
