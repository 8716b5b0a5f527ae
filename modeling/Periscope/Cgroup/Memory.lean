import Periscope.Cgroup.Cpu

/-!
# Memory of a container

A container can still use what its limit leaves and no more than the host has free. The
word `max` stands for no limit.
-/

namespace Periscope

/-- The memory figures of a container, in bytes, and the used part in percent. There is
no such part if nothing is used and nothing free. -/
structure MemoryUsage (α : Type) where
  /-- The size in use. -/
  used : UInt64
  /-- What can still be used. -/
  free : UInt64
  /-- Active pages of files. -/
  buffered : UInt64
  /-- The page cache. -/
  cached : UInt64
  /-- The used part of what is used or free. -/
  utilization : Option α
  deriving Repr, BEq

/-- Memory figures as JSON. -/
def MemoryUsage.toJson (usage : MemoryUsage Float) : Json :=
  .object
    [("buffered", .integer usage.buffered.toNat), ("cached", .integer usage.cached.toNat),
     ("free", .integer usage.free.toNat), ("used", .integer usage.used.toNat),
     ("utilization", (usage.utilization.map Json.ofFloat).getD .null)]

/-- Derives what is free from the limit, what is used and what the host has free. -/
def deriveMemory {α : Type} [Figure α] (used limit hostFree cached buffered : UInt64) :
    MemoryUsage α :=
  let headroom := min hostFree (subtractWords limit used)
  let total := addSaturating used headroom
  let free := total - used
  let whole := addSaturating used free
  { used, free, buffered, cached
    utilization :=
      if whole = 0 then none
      else some (Figure.ofWord used * Figure.ofWord 100 / Figure.ofWord whole) }

/-- The limit that stands for none. -/
def unlimited : UInt64 := UInt64.ofNat (UInt64.size - 1)

namespace MemoryFiles

/-- The sizes of page cache and active file pages in the text of the stat file. -/
def cachedBuffered (files : MemoryFiles) (content : String) : Except IoError (UInt64 × UInt64) := do
  let (cachedKey, bufferedKey) := match files.layout with
    | .v1 => ("total_cache", "total_active_file")
    | .v2 => ("file", "active_file")
  let cached ← AccountingFile.required files.stat content cachedKey
  let buffered ← AccountingFile.required files.stat content bufferedKey
  return (cached, buffered)

/-- The limit in the text of the limit file. -/
def limitBytes (files : MemoryFiles) (content : String) : Except IoError UInt64 :=
  if Text.trim content = "max" then .ok unlimited else AccountingFile.single files.limit content

/-- The size in use in the text of the usage file. -/
def usedBytes (files : MemoryFiles) (content : String) : Except IoError UInt64 :=
  AccountingFile.single files.usage content

end MemoryFiles

end Periscope
