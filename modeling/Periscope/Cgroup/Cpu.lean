import Periscope.Cgroup.KeyedFile
import Periscope.Cgroup.Layout
import Periscope.Duration
import Periscope.Panic

/-!
# Processor use of a container

Counters of used processor time only grow, so the use in an interval is the difference of
two readings. It is split between user and system time as the ticks of the container are,
and the host's shares of its own times are added core by core. The arithmetic is written
for any numbers; programs compute with doubles.
-/

namespace Periscope

/-- Numbers that percentages are computed with. -/
class Figure (α : Type) extends Add α, Sub α, Mul α, Div α where
  /-- The number nearest to a word. -/
  ofWord : UInt64 → α
  /-- A tenth. -/
  tenth : α
  /-- The lesser of a bound and a number. -/
  atMost : α → α → α
  /-- Whether a number is above zero. -/
  isPositive : α → Bool
  /-- Whether a number is zero. -/
  isZero : α → Bool

instance : Figure Float where
  ofWord := UInt64.toFloat
  tenth := 0.1
  atMost bound x := if x ≤ bound then x else bound
  isPositive x := 0.0 < x
  isZero x := x == 0.0

/-- The shares of a core's time, in percent, that only the host keeps account of. -/
structure HostShares (α : Type) where
  /-- Programs of low priority. -/
  nice : α
  /-- Waiting for devices. -/
  iowait : α
  /-- Serving interrupts. -/
  irq : α
  /-- Taken by the machine that hosts this one. -/
  steal : α
  deriving Repr, BEq

/-- No share of anything. -/
def HostShares.none {α : Type} [Figure α] : HostShares α :=
  ⟨Figure.ofWord 0, Figure.ofWord 0, Figure.ofWord 0, Figure.ofWord 0⟩

/-- The use of one core, in percent. -/
structure CoreUsage (α : Type) where
  /-- What is left of the core. -/
  idle : α
  /-- The host's share for programs of low priority. -/
  nice : α
  /-- The part of the busy time spent in programs. -/
  user : α
  /-- The host's share for waiting for devices. -/
  wait : α
  /-- The part of the busy time spent in the system. -/
  system : α
  /-- The host's share for interrupts. -/
  interrupt : α
  /-- The share taken from the host. -/
  steal : α
  /-- The container's busy time. -/
  utilization : α
  deriving Repr, BEq

/-- The use of a core as JSON. -/
def CoreUsage.toJson (core : CoreUsage Float) : Json :=
  .object
    [("idle", .ofFloat core.idle), ("interrupt", .ofFloat core.interrupt),
     ("nice", .ofFloat core.nice), ("steal", .ofFloat core.steal),
     ("system", .ofFloat core.system), ("user", .ofFloat core.user),
     ("utilization", .ofFloat core.utilization), ("wait", .ofFloat core.wait)]

namespace CpuFiles

/-- The counters of used time in nanoseconds, one for each core, in the text of the usage
file. The second layout has one counter for all cores, in microseconds. -/
def counters (files : CpuFiles) (content : String) : Except IoError (List UInt64) :=
  match files.layout with
  | .v1 => AccountingFile.row files.usage content
  | .v2 => do
    let micros ← AccountingFile.required files.usage content "usage_usec"
    return [multiplySaturating micros 1000]

/-- User and system time in the text of the stat file, in the unit of the file. -/
def userSystem (files : CpuFiles) (content : String) : Except IoError (UInt64 × UInt64) := do
  let (userKey, systemKey) := match files.layout with
    | .v1 => ("user", "system")
    | .v2 => ("user_usec", "system_usec")
  let user ← AccountingFile.required files.stat content userKey
  let system ← AccountingFile.required files.stat content systemKey
  return (user, system)

end CpuFiles

section Usage

variable {α : Type} [Figure α]

/-- A duration in seconds. -/
def Duration.inSeconds (d : Duration) : α :=
  Figure.ofWord (UInt64.ofNat d.seconds) +
    Figure.ofWord (UInt64.ofNat d.subsecond) / Figure.ofWord 1000000000

/-- How user and system time share the used time. -/
structure TickWeights (α : Type) where
  /-- The weight of user time. -/
  user : α
  /-- The weight of system time. -/
  system : α

/-- The weights of user and system ticks; without any ticks both weights are zero. -/
def tickWeights (user system : UInt64) : Except Panic (TickWeights α) := do
  let sum : α := Figure.ofWord (← addWords user system)
  let total := if Figure.isZero sum then Figure.tenth else sum
  return ⟨Figure.ofWord user / total, Figure.ofWord system / total⟩

/-- The busy time of a core in percent, at most 100. A counter that went back counts as
no use, and so does an interval of no length. -/
def coreUtilization (seconds : α) (before current : UInt64) : α :=
  if Figure.isPositive seconds then
    Figure.atMost (Figure.ofWord 100)
      (Figure.ofWord (subtractWords current before) / Figure.ofWord 1000000000 / seconds *
        Figure.ofWord 100)
  else Figure.ofWord 0

/-- The use of a core whose busy time is known. -/
def coreUsage (weights : TickWeights α) (utilization : α) (host : HostShares α) : CoreUsage α :=
  { idle := Figure.ofWord 100 - utilization
    nice := host.nice
    user := utilization * weights.user
    wait := host.iowait
    system := utilization * weights.system
    interrupt := host.irq
    steal := host.steal
    utilization := utilization }

/-- The use of the cores that both readings have. A core without host shares has none. -/
def coreUsages (weights : TickWeights α) (seconds : α) :
    List UInt64 → List UInt64 → List (HostShares α) → List (CoreUsage α)
  | before :: befores, current :: currents, hosts =>
    coreUsage weights (coreUtilization seconds before current) (hosts.headD HostShares.none) ::
      coreUsages weights seconds befores currents hosts.tail
  | _, _, _ => []

/-- The use of each core between two readings of its counter. -/
def computeCoreUsage (before current : List UInt64) (interval : Duration)
    (user system : UInt64) (host : List (HostShares α)) : Except Panic (List (CoreUsage α)) := do
  let weights ← tickWeights user system
  return coreUsages weights interval.inSeconds before current host

/-- As many cores are reported as both readings have. -/
theorem length_coreUsages (weights : TickWeights α) (seconds : α) (before current : List UInt64)
    (host : List (HostShares α)) :
    (coreUsages weights seconds before current host).length = min before.length current.length := by
  induction before generalizing current host with
  | nil => simp [coreUsages]
  | cons _ befores ih =>
    cases current with
    | nil => simp [coreUsages]
    | cons _ currents => simp [coreUsages, ih, Nat.add_min_add_right]

end Usage

end Periscope
