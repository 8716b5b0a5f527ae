import Periscope.Proofs.Mirroring
import Periscope.Proofs.Sampling.Listening

/-!
# Sampling in two worlds

Samplers that ask sources which answer the same return the same, as long as their sessions stay
related. Only the processor use of a container looks at the cache, and only at its own sample.
-/

namespace Periscope

variable {σ τ α β : Type} {R : Session σ → Session τ → Prop}

/-- Asked in sessions that are related, two sources answer the same about a container's files,
the clock and the host's processors. -/
structure SampleSource.Mirrors (R : Session σ → Session τ → Prop) (source : SampleSource σ)
    (other : SampleSource τ) : Prop where
  /-- Both read the same text. -/
  readText : ∀ path, Action.Mirrors R Eq (Action.ask (source.readText path))
    (Action.ask (other.readText path))
  /-- Both clocks show the same. -/
  now : Action.Mirrors R Eq (Action.ask source.now) (Action.ask other.now)
  /-- Both sleep for a time. -/
  sleep : ∀ d, Action.Mirrors R Eq (Action.ask (source.sleep d)) (Action.ask (other.sleep d))
  /-- Both tell the same shares. -/
  hostShares : Action.Mirrors R Eq (Action.ask source.hostShares) (Action.ask other.hostShares)
  /-- Both tell the operator the same. -/
  notice : ∀ n, Action.Mirrors R Eq (Action.notice n) (Action.notice n)

namespace Sampler

variable {source : SampleSource σ} {other : SampleSource τ}

namespace Reading

/-- Steps that mirror each other, errors included. -/
abbrev Mirrors (R : Session σ → Session τ → Prop) (a : Reading σ α) (b : Reading τ α) : Prop :=
  Call.Mirrors R a.run b.run

theorem Mirrors.pure (x : α) : Mirrors R (pure x : Reading σ α) (pure x) :=
  Call.Mirrors.const (Except.ok (Except.ok x))

/-- Steps after steps. -/
theorem Mirrors.bind {a : Reading σ α} {b : Reading τ α} {f : α → Reading σ β}
    {g : α → Reading τ β} (h : Mirrors R a b) (hthen : ∀ x, Mirrors R (f x) (g x)) :
    Mirrors R (a >>= f) (b >>= g) :=
  Call.Mirrors.bind h fun
    | .ok x => hthen x
    | .error cause => .const (Except.ok (Except.error cause))

/-- A call among the steps. -/
theorem Mirrors.lift {a : Call σ α} {b : Call τ α} (h : Call.Mirrors R a b) :
    Mirrors R (ExceptT.lift a) (ExceptT.lift b) :=
  h.bind fun x => .const (Except.ok (Except.ok x))

end Reading

/-- A file of a container. -/
theorem readFile_mirrors {path : String}
    (h : Action.Mirrors R Eq (Action.ask (source.readText path))
      (Action.ask (other.readText path))) (value : String → Except IoError α) :
    Reading.Mirrors R (readFile source path value) (readFile other path value) := by
  refine Reading.Mirrors.bind (.lift (.perform h)) fun content => ?_
  cases content with
  | error cause =>
    exact Call.Mirrors.const (Except.ok (Except.error (AccountingFile.unreadable path cause)))
  | ok content => exact Call.Mirrors.const (Except.ok (value content))

variable {wait : Duration} {id : String} {files : CpuFiles}

theorem now_mirrors (h : source.Mirrors R other) : Reading.Mirrors R (now source) (now other) :=
  .lift (.ask h.now)

/-- Counters that are read twice. -/
theorem coldWindow_mirrors (h : source.Mirrors R other) :
    Reading.Mirrors R (coldWindow source files wait) (coldWindow other files wait) := by
  have hcounters : Reading.Mirrors R (readCounters source files) (readCounters other files) :=
    readFile_mirrors (h.readText _) _
  refine hcounters.bind fun before => (now_mirrors h).bind fun start => ?_
  refine (Reading.Mirrors.lift (.ask (h.sleep wait))).bind fun _ => ?_
  exact hcounters.bind fun current => (now_mirrors h).bind fun finish => .pure _

/-- The window of a container's counters that goes on from a given sample. -/
theorem windowSince_mirrors (h : source.Mirrors R other) (previous : Option Sample) :
    Reading.Mirrors R (windowSince source wait files previous)
      (windowSince other wait files previous) := by
  refine (now_mirrors h).bind fun start => ?_
  cases usable? previous start with
  | some found => exact (readFile_mirrors (h.readText _) _).bind fun _ => .pure _
  | none => exact coldWindow_mirrors h

/-- A container's files, if both caches have the same sample of it. -/
theorem readCpu_mirrors (h : source.Mirrors R other)
    (hsample : ∀ {s t}, R s t → Pairs.find? id s.samples = Pairs.find? id t.samples) :
    Reading.Mirrors R (readCpu source wait id files) (readCpu other wait id files) := by
  have hwindow : Reading.Mirrors R (window source wait id files) (window other wait id files) := by
    intro s t hst
    obtain ⟨hends, hleft⟩ : (windowSince source wait files (Pairs.find? id s.samples) s).1 =
        (windowSince other wait files (Pairs.find? id s.samples) t).1 ∧
          R (windowSince source wait files (Pairs.find? id s.samples) s).2
            (windowSince other wait files (Pairs.find? id s.samples) t).2 :=
      windowSince_mirrors h _ s t hst
    have hsame : windowSince other wait files (Pairs.find? id s.samples) t =
        window other wait id files t := by
      rw [hsample hst]
      rfl
    rw [hsame] at hends hleft
    exact ⟨hends, hleft⟩
  exact hwindow.bind fun _ => (readFile_mirrors (h.readText _) _).bind fun _ => .pure _

theorem hostShares_mirrors (h : source.Mirrors R other) :
    Call.Mirrors R (hostShares source) (hostShares other) := by
  refine (Call.Mirrors.ask h.hostShares).bind fun answer => ?_
  cases answer with
  | ok shares => exact .pure shares
  | error cause => exact .performBindEq (h.notice _) fun _ => .pure []

/-- What a call does once it has read the files and kept the counters. -/
def reportCpu (source : SampleSource σ) (id : String) (window : CounterWindow)
    (user system : UInt64) : Call σ (Except CrawlError (List (CoreUsage Float))) := do
  if window.before.length ≠ window.current.length then
    Call.perform (Action.notice (.coreCountChanged id window.before.length window.current.length))
  let host ← hostShares source
  let cores ← Call.checked
    (computeCoreUsage window.before window.current window.interval user system host)
  return .ok cores

/-- Keeps the counters of a window. -/
def keepWindow (id : String) (window : CounterWindow) (s : Session σ) : Session σ :=
  { s with samples := Pairs.insert id ⟨window.current, window.sampledAt⟩ s.samples }

/-- A call reads the files, keeps the counters and reports. -/
theorem cpu_eq (source : SampleSource σ) : cpu source wait id files = (do
    match failed id (← (readCpu source wait id files).run) with
    | .error failure => return .error failure
    | .ok (window, user, system) =>
      modify (keepWindow id window)
      reportCpu source id window user system) := rfl

theorem reportCpu_mirrors (h : source.Mirrors R other) (window : CounterWindow)
    (user system : UInt64) :
    Call.Mirrors R (reportCpu source id window user system)
      (reportCpu other id window user system) := by
  have hrest := (hostShares_mirrors h).bind fun host =>
    (Call.Mirrors.checked (computeCoreUsage window.before window.current window.interval user
      system host)).bind fun cores => .pure (.ok cores : Except CrawlError _)
  unfold reportCpu
  split
  · exact .performBindEq (h.notice _) fun _ => hrest
  · exact hrest

/-- The processor use of a container. -/
theorem cpu_mirrors (h : source.Mirrors R other)
    (hsample : ∀ {s t}, R s t → Pairs.find? id s.samples = Pairs.find? id t.samples)
    (hkeep : ∀ {s t}, R s t → ∀ window, R (keepWindow id window s) (keepWindow id window t)) :
    Call.Mirrors R (cpu source wait id files) (cpu other wait id files) := by
  rw [cpu_eq, cpu_eq]
  refine Call.Mirrors.bind (readCpu_mirrors h hsample) fun read => ?_
  cases read with
  | error cause => exact .pure _
  | ok figures =>
    obtain ⟨window, user, system⟩ := figures
    have hkept : Action.Mirrors R Eq (modify (keepWindow id window))
        (modify (keepWindow id window)) := fun s t hst => ⟨rfl, hkeep hst window⟩
    exact Call.Mirrors.performBindEq hkept fun _ => reportCpu_mirrors h window user system

/-- The memory figures of a container. -/
theorem memory_mirrors {files : MemoryFiles}
    (hread : ∀ path, Action.Mirrors R Eq (Action.ask (source.readText path))
      (Action.ask (other.readText path)))
    (hfree : Action.Mirrors R Eq (Action.ask source.hostFree) (Action.ask other.hostFree)) :
    Call.Mirrors R (memory source id files) (memory other id files) := by
  refine Call.Mirrors.bind ?_ fun read => .pure (failed id read)
  refine Reading.Mirrors.bind (readFile_mirrors (hread _) files.cachedBuffered) fun sizes => ?_
  refine Reading.Mirrors.bind (readFile_mirrors (hread _) files.limitBytes) fun limit => ?_
  refine Reading.Mirrors.bind (readFile_mirrors (hread _) files.usedBytes) fun used => ?_
  refine Reading.Mirrors.bind (.lift (.ask hfree)) fun answer => ?_
  cases answer with
  | error cause => exact Call.Mirrors.const (Except.ok (Except.error cause))
  | ok free => exact .pure _

end Sampler

end Periscope
