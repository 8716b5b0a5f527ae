import Periscope.Cgroup.Memory
import Periscope.Session

/-!
# Sampling a container

The processor use of a container is taken between its latest sample and now. If there is
no earlier sample, or none from before now, the counters are read twice with a short wait
in between. The latest counters are kept as soon as every file of the container has been
read, and not before.
-/

namespace Periscope

/-- Where samples are taken from: files, a clock, and the host's own figures. -/
structure SampleSource (σ : Type) where
  /-- Reads a file as a text. -/
  readText : String → σ → Except IoError String × σ
  /-- Reads the clock. -/
  now : σ → Except Panic Instant × σ
  /-- Sleeps for a time. -/
  sleep : Duration → σ → Except Panic Unit × σ
  /-- The host's processor shares, core by core. -/
  hostShares : σ → Except Panic (Except IoError (List (HostShares Float))) × σ
  /-- The host's free memory in bytes. -/
  hostFree : σ → Except Panic (Except IoError UInt64) × σ

/-- Two readings of a container's counters, the time between them and the time of the
later one. -/
structure CounterWindow where
  /-- The earlier counters. -/
  before : List UInt64
  /-- The later counters. -/
  current : List UInt64
  /-- The time between them. -/
  interval : Duration
  /-- When the later counters count as read. -/
  sampledAt : Instant
  deriving DecidableEq

variable {σ : Type} (source : SampleSource σ)

namespace Sampler

/-- Steps that may fail with an error of the system. -/
abbrev Reading (σ : Type) := ExceptT IoError (Call σ)

/-- Reads an accounting file and takes a value from its text. -/
def readFile {α : Type} (path : String) (value : String → Except IoError α) : Reading σ α := do
  match ← ExceptT.lift (Call.perform (Action.ask (source.readText path))) with
  | .error cause => throw (AccountingFile.unreadable path cause)
  | .ok content => ExceptT.mk (pure (value content))

/-- Reads the clock. -/
def now : Reading σ Instant := ExceptT.lift (Call.ask source.now)

/-- Reads the counters of a container. -/
def readCounters (files : CpuFiles) : Reading σ (List UInt64) :=
  readFile source files.usage files.counters

/-- A sample from before an instant, with the time between them. -/
def usable? (sample : Option Sample) (now : Instant) : Option (Sample × Duration) :=
  match sample with
  | none => none
  | some sample =>
    if sample.sampledAt.nanos < now.nanos then some (sample, now.since sample.sampledAt) else none

/-- Reads the counters once, against an earlier sample. -/
def warmWindow (files : CpuFiles) (previous : Sample) (interval : Duration) (time : Instant) :
    Reading σ CounterWindow := do
  let current ← readCounters source files
  return ⟨previous.counters, current, interval, time⟩

/-- Reads the counters twice. If the clock did not move meanwhile, the time that was
waited counts. -/
def coldWindow (files : CpuFiles) (wait : Duration) : Reading σ CounterWindow := do
  let before ← readCounters source files
  let start ← now source
  ExceptT.lift (Call.ask (source.sleep wait))
  let current ← readCounters source files
  let finish ← now source
  let interval := if start.nanos < finish.nanos then finish.since start else wait
  return ⟨before, current, interval, finish⟩

/-- The window of a container's counters that ends now. -/
def window (wait : Duration) (id : String) (files : CpuFiles) : Reading σ CounterWindow := do
  let previous := Pairs.find? id (← get).samples
  let start ← now source
  match usable? previous start with
  | some (previous, interval) => warmWindow source files previous interval start
  | none => coldWindow source files wait

/-- The host's shares of each core; without them every share is zero. -/
def hostShares : Call σ (List (HostShares Float)) := do
  match ← Call.ask source.hostShares with
  | .ok shares => return shares
  | .error cause =>
    Call.perform (Action.notice (.hostTimesUnavailable cause))
    return []

/-- An error of a container's files. -/
def failed {α : Type} (id : String) (result : Except IoError α) : Except CrawlError α :=
  result.mapError fun cause => .resourceSample id cause.message

/-- The processor use of each core of a container. -/
def cpu (wait : Duration) (id : String) (files : CpuFiles) :
    Call σ (Except CrawlError (List (CoreUsage Float))) := do
  let read : Reading σ (CounterWindow × UInt64 × UInt64) := do
    let window ← window source wait id files
    return (window, ← readFile source files.stat files.userSystem)
  match failed id (← read.run) with
  | .error failure => return .error failure
  | .ok (window, user, system) =>
    modify fun s => { s with
      samples := Pairs.insert id ⟨window.current, window.sampledAt⟩ s.samples }
    if window.before.length ≠ window.current.length then
      Call.perform (Action.notice
        (.coreCountChanged id window.before.length window.current.length))
    let host ← hostShares source
    let cores ← Call.checked
      (computeCoreUsage window.before window.current window.interval user system host)
    return .ok cores

/-- The memory figures of a container. -/
def memory (id : String) (files : MemoryFiles) :
    Call σ (Except CrawlError (MemoryUsage Float)) := do
  let read : Reading σ (MemoryUsage Float) := do
    let (cached, buffered) ← readFile source files.stat files.cachedBuffered
    let limit ← readFile source files.limit files.limitBytes
    let used ← readFile source files.usage files.usedBytes
    match ← ExceptT.lift (Call.ask source.hostFree) with
    | .error cause => throw cause
    | .ok hostFree => return deriveMemory used limit hostFree cached buffered
  return failed id (← read.run)

end Sampler

end Periscope
