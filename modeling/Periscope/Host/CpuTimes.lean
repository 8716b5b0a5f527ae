import Periscope.Cgroup.Cpu

/-!
# The host's own processor times

The host counts ticks of eight kinds for each core since its start. Shares of the time
between two readings are reported; before the first reading every count is zero. The
window moves on only when a reading succeeds, and its cores are matched by position.
-/

namespace Periscope

/-- The ticks of a core since the start of the host. -/
structure CoreTicks where
  /-- Programs of normal priority. -/
  user : UInt64 := 0
  /-- Programs of low priority. -/
  nice : UInt64 := 0
  /-- The system itself. -/
  system : UInt64 := 0
  /-- Nothing to do. -/
  idle : UInt64 := 0
  /-- Waiting for devices. -/
  iowait : UInt64 := 0
  /-- Interrupts served in hardware. -/
  irq : UInt64 := 0
  /-- Interrupts served in software. -/
  softirq : UInt64 := 0
  /-- Taken by the machine that hosts this one. -/
  steal : UInt64 := 0
  deriving Repr, DecidableEq

namespace CoreTicks

/-- All ticks of a core. -/
def total (t : CoreTicks) : Except Panic UInt64 :=
  sumWords [t.user, t.nice, t.system, t.idle, t.iowait, t.irq, t.softirq, t.steal]

/-- A count; a field that is no number counts as zero. -/
def count (field : List Char) : UInt64 :=
  match Text.readWord (String.ofList field) with
  | .ok n => n
  | .error _ => 0

/-- Whether a line belongs to a single core. -/
def isCoreLine : List Char → Bool
  | 'c' :: 'p' :: 'u' :: d :: _ => (digitValue? d).isSome
  | _ => false

/-- The ticks in the fields of a line behind its name. Missing fields count as zero. -/
def ofCounts (counts : List UInt64) : CoreTicks :=
  let field (i : Nat) := counts.getD i 0
  { user := field 0
    nice := field 1
    system := field 2
    idle := field 3
    iowait := field 4
    irq := field 5
    softirq := field 6
    steal := field 7 }

/-- The ticks of each core in the text of the statistics file, in the order of its
lines. -/
def parse (content : String) : List CoreTicks :=
  ((linesOf content.toList).filter isCoreLine).map fun line =>
    ofCounts ((fieldsOf line).tail.map count)

variable {α : Type} [Figure α]

/-- A part of a positive number of ticks, in percent. -/
def percent (total now before : UInt64) : α :=
  Figure.ofWord (subtractWords now before) / Figure.ofWord total * Figure.ofWord 100

/-- The shares of a core between two readings. Interrupts are served in hardware and in
software. -/
def sharesBetween (before now : CoreTicks) : Except Panic (HostShares α) := do
  let nowTotal ← now.total
  let beforeTotal ← before.total
  let total := subtractWords nowTotal beforeTotal
  if total = 0 then return HostShares.none
  else
    let nowIrq ← addWords now.irq now.softirq
    let beforeIrq ← addWords before.irq before.softirq
    return {
      nice := percent total now.nice before.nice
      iowait := percent total now.iowait before.iowait
      irq := percent total nowIrq beforeIrq
      steal := percent total now.steal before.steal }

/-- The shares of each core, matched with the earlier reading by position. A core that
the earlier reading does not have started from zero. -/
def sharesSince : List CoreTicks → List CoreTicks → Except Panic (List (HostShares α))
  | _, [] => return []
  | window, now :: rest => do
    let first ← sharesBetween (window.headD {}) now
    return first :: (← sharesSince window.tail rest)

end CoreTicks

/-- The file of the host's processor times. -/
def hostCpuPath (root : String) : String := joinPath root "stat"

/-- Reads the shares since the latest reading that succeeded. The text of the file, or
the error in its place, is given. Returns the result and the window to go on with. -/
def readHostShares {α : Type} [Figure α] (window : List CoreTicks)
    (content : Except IoError String) :
    Except Panic (Except IoError (List (HostShares α))) × List CoreTicks :=
  match content with
  | .error e => (.ok (.error e), window)
  | .ok content =>
    let now := CoreTicks.parse content
    match CoreTicks.sharesSince window now with
    | .error panic => (.error panic, window)
    | .ok shares => (.ok (.ok shares), now)

end Periscope
