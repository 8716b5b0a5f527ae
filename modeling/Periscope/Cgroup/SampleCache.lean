import Periscope.Duration
import Periscope.Pairs

/-!
# The latest samples

For each container the counters of the latest sample are kept, with the time of reading.
-/

namespace Periscope

/-- The counters of a container at a time. -/
structure Sample where
  /-- The used time of each core in nanoseconds. -/
  counters : List UInt64
  /-- When the counters were read. -/
  sampledAt : Instant
  deriving DecidableEq

/-- The latest sample of each container, by id. -/
abbrev SampleCache := List (String × Sample)

end Periscope
