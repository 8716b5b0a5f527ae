import Periscope.Cgroup.Memory
import Periscope.Decimal.Fixed
import Periscope.Error

/-!
# The table of samples

One line for each container, in columns of fixed width. A container that cannot be
sampled has the error in place of its figures.
-/

namespace Periscope.SampleTable

/-- Fills a text with blanks on the right. -/
def padRight (width : Nat) (s : String) : String :=
  s ++ String.ofList (List.replicate (width - s.length) ' ')

/-- Fills a text with blanks on the left. -/
def padLeft (width : Nat) (s : String) : String :=
  String.ofList (List.replicate (width - s.length) ' ') ++ s

/-- A size in the largest binary unit that it reaches. -/
def bytesText (bytes : UInt64) : String :=
  let inUnit (unit : UInt64) : String := oneDecimal (bytes.toFloat / unit.toFloat)
  if bytes = unlimited then "unlimited"
  else if 1073741824 ≤ bytes then inUnit 1073741824 ++ " GiB"
  else if 1048576 ≤ bytes then inUnit 1048576 ++ " MiB"
  else if 1024 ≤ bytes then inUnit 1024 ++ " KiB"
  else toString bytes ++ " B"

/-- A percentage, or a dash if there is none. -/
def percentText : Option Float → String
  | some x => oneDecimal x ++ "%"
  | none => "-"

/-- The columns of the processor figures. -/
def cpuColumns (name cores percent : String) : String :=
  padRight 16 name ++ " " ++ padLeft 6 cores ++ " " ++ padLeft 10 percent

/-- The columns of the memory figures. -/
def memoryColumns (used free percent : String) : String :=
  padLeft 12 used ++ " " ++ padLeft 12 free ++ " " ++ padLeft 8 percent

/-- The names of the columns. -/
def header : String :=
  cpuColumns "CONTAINER" "CORES" "CPU" ++ " " ++ memoryColumns "MEM USED" "MEM FREE" "MEM"

/-- The name of a container in the table: the start of its id. -/
def shortName (id : String) : String := String.ofList (id.toList.take 12)

/-- The mean use of the cores. -/
def meanUtilization (cores : List (CoreUsage Float)) : Float :=
  if cores.isEmpty then 0.0
  else
    cores.foldl (fun sum core => sum + core.utilization) 0.0 /
      (UInt64.ofNat cores.length).toFloat

/-- The line of a container whose processor use is not known. -/
def cpuFailure (id : String) (cause : CrawlError) : String :=
  padRight 16 (shortName id) ++ " error: " ++ cause.message

/-- The line of a container. -/
def line (id : String) (cores : List (CoreUsage Float))
    (memory : Except CrawlError (MemoryUsage Float)) : String :=
  cpuColumns (shortName id) (toString cores.length) (percentText (some (meanUtilization cores))) ++
    match memory with
    | .ok m =>
      " " ++ memoryColumns (bytesText m.used) (bytesText m.free) (percentText m.utilization)
    | .error cause => " error: " ++ cause.message

end Periscope.SampleTable
