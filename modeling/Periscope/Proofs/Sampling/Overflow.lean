import Periscope.Proofs.Host.Ticks
import Periscope.Proofs.Sampling.Continuity

/-!
# Sums of counters that are too large

A call for the processor use of a container adds up two counters of the container and eight
counters of each core of the host. These sums are checked, so a file whose counters are too
large stops the call. Nothing else stops it but a clock that has no reading in range.
-/

namespace Periscope

variable {σ α β : Type}

/-- The source whose host figures are those of the statistics file. `past` are the texts of the
file that were read before, and `stat` reads it again. -/
def SampleSource.withStatistics (source : SampleSource σ) (past : List (Except IoError String))
    (stat : σ → Except IoError String × σ) : SampleSource σ :=
  { source with
    hostShares := fun w =>
      ((readHostShares (CoreTicks.windowAfter past) (stat w).1).1, (stat w).2) }

namespace Sampler

variable {source : SampleSource σ} {wait : Duration} {id : String} {files : CpuFiles}
  {s : Session σ}

/-- The clock has no reading in range at some moment, or none after a wait. -/
def ClockStops (source : SampleSource σ) (wait : Duration) (cause : Panic) : Prop :=
  ∃ w, (source.now w).1 = .error cause ∨ (source.sleep wait w).1 = .error cause

namespace Reading

/-- Steps that stop for no other reasons than these. -/
def StopsBy (reasons : Panic → Prop) (a : Reading σ α) : Prop :=
  ∀ s cause, (a s).1 = .error (.panicked cause) → reasons cause

variable {reasons : Panic → Prop}

theorem stopsBy_pure (x : α) : StopsBy reasons (pure x : Reading σ α) := by
  intro s cause h
  cases h

theorem StopsBy.bind {a : Reading σ α} {f : α → Reading σ β} (ha : StopsBy reasons a)
    (hf : ∀ x, StopsBy reasons (f x)) : StopsBy reasons (a >>= f) := by
  intro s cause h
  have hbind : (a >>= f) s = (.error (.panicked cause), ((a >>= f) s).2) := Prod.ext h rfl
  rcases Call.of_bind hbind with ⟨x, s₁, _, hrest⟩ | ⟨halt, hfirst, hhalt⟩
  · cases x with
    | ok x => exact hf x _ _ (congrArg Prod.fst hrest)
    | error cause =>
      obtain ⟨hout, _⟩ := Call.of_pure hrest
      cases hout
  · obtain rfl := Except.error.inj hhalt
    exact ha _ _ (congrArg Prod.fst hfirst)

theorem stopsBy_ask {answer : σ → Except Panic α × σ}
    (h : ∀ {w cause}, (answer w).1 = .error cause → reasons cause) :
    StopsBy reasons (ExceptT.lift (Call.ask answer) : Reading σ α) := by
  intro s cause hstop
  obtain ⟨q, hask, hq⟩ := of_lift (Prod.ext hstop rfl)
  obtain ⟨rfl, _⟩ := Call.of_ask hask
  cases hanswer : (answer s.world).1 with
  | ok x => simp [hanswer, Except.mapError, Except.map] at hq
  | error found =>
    obtain rfl : cause = found := by simpa [hanswer, Except.mapError, Except.map] using hq
    exact h hanswer

end Reading

private theorem stopsBy_readFile {reasons : Panic → Prop} {path : String}
    {value : String → Except IoError α} :
    Reading.StopsBy reasons (readFile source path value) := by
  intro s cause h
  rw [readFile_apply] at h
  cases h

/-- Until all files of a container are read, only the clock stops a call. -/
private theorem stopsBy_readCpu :
    Reading.StopsBy (ClockStops source wait) (readCpu source wait id files) := by
  have hnow : Reading.StopsBy (ClockStops source wait) (now source) :=
    Reading.stopsBy_ask fun h => ⟨_, .inl h⟩
  have hsleep : Reading.StopsBy (ClockStops source wait)
      (ExceptT.lift (Call.ask (source.sleep wait))) :=
    Reading.stopsBy_ask fun h => ⟨_, .inr h⟩
  have hget : Reading.StopsBy (ClockStops source wait) (get : Reading σ (Session σ)) := by
    intro s cause h
    cases h
  have hwindow : Reading.StopsBy (ClockStops source wait) (window source wait id files) := by
    refine hget.bind fun _ => hnow.bind fun start => ?_
    split
    · exact stopsBy_readFile.bind fun _ => Reading.stopsBy_pure _
    · refine stopsBy_readFile.bind fun _ => hnow.bind fun _ => hsleep.bind fun _ => ?_
      exact stopsBy_readFile.bind fun _ => hnow.bind fun _ => Reading.stopsBy_pure _
  exact hwindow.bind fun _ => stopsBy_readFile.bind fun _ => Reading.stopsBy_pure _

/-- How a call for the processor use of a container ends, by what the container's files and then
the statistics file have told. -/
inductive CpuEnding (source : SampleSource σ) (stat : σ → Except IoError String × σ)
    (wait : Duration) (id : String) :
    Except Halt (Except IoError (CounterWindow × UInt64 × UInt64)) × Session σ →
      Except Halt (Except CrawlError (List (CoreUsage Float))) → Prop where
  /-- The clock stopped the call before all files were read. -/
  | clock {cause : Panic} {s₁ : Session σ} (hclock : ClockStops source wait cause) :
      CpuEnding source stat wait id (.error (.panicked cause), s₁) (.error (.panicked cause))
  /-- A file could not be read, and the call returns that. -/
  | unread (cause : IoError) (s₁ : Session σ) :
      CpuEnding source stat wait id (.ok (.error cause), s₁)
        (.ok (.error (.resourceSample id cause.message)))
  /-- The user and system time, or the ticks of a core of the host, are too large. -/
  | tooLarge {window : CounterWindow} {user system : UInt64} {s₁ : Session σ}
      (hsum : UInt64.size ≤ user.toNat + system.toNat ∨ CoreTicks.Overflows (stat s₁.world).1) :
      CpuEnding source stat wait id (.ok (.ok (window, user, system)), s₁)
        (.error (.panicked .sumOverflow))
  /-- All sums are words, and the call returns the use of the cores. -/
  | computed {window : CounterWindow} {user system : UInt64} {s₁ : Session σ}
      {cores : List (CoreUsage Float)} (hsum : user.toNat + system.toNat < UInt64.size)
      (hhost : ¬ CoreTicks.Overflows (stat s₁.world).1) :
      CpuEnding source stat wait id (.ok (.ok (window, user, system)), s₁) (.ok (.ok cores))

/-- User and system time that are too large together stop the computation. -/
private theorem computeCoreUsage_of_le {before current : List UInt64} {interval : Duration}
    {user system : UInt64} {host : List (HostShares Float)}
    (hsum : UInt64.size ≤ user.toNat + system.toNat) :
    computeCoreUsage before current interval user system host = .error .sumOverflow := by
  rw [computeCoreUsage, tickWeights, addWords, if_neg (Nat.not_lt.mpr hsum)]
  rfl

/-- **Only sums that are too large stop a call.** Whatever the files of a container say in either
layout, whatever the cache holds and whatever the statistics file has said each time that it was
read: a call for the processor use of the container stops because of the clock, or because the
container's user and system time or the ticks of a core of the host add up to more than a word.
Otherwise it returns figures, or the error of a file. -/
theorem cpu_ending (source : SampleSource σ) (past : List (Except IoError String))
    (stat : σ → Except IoError String × σ) (wait : Duration) (id : String) (files : CpuFiles)
    (s : Session σ) :
    CpuEnding source stat wait id (readCpu (source.withStatistics past stat) wait id files s)
      (cpu (source.withStatistics past stat) wait id files s).1 := by
  generalize hcpu : cpu (source.withStatistics past stat) wait id files s = out
  obtain ⟨outcome, s'⟩ := out
  cases cpu_course hcpu with
  | unread hfiles hasks =>
    rw [hfiles]
    exact .unread _ _
  | stopped hfiles hasks =>
    rw [hfiles]
    exact .clock (stopsBy_readCpu _ _ (congrArg Prod.fst hfiles))
  | @sampled r s₁ _ hfiles hhost hread htells =>
    rw [hfiles]
    have hanswer : (readHostShares (CoreTicks.windowAfter past) (stat s₁.world).1).1 = r.host :=
      congrArg Prod.fst hhost
    obtain ⟨hstop, htold, _⟩ := CoreTicks.readHostShares_of_fits (α := Float)
      (CoreTicks.windowAfter_fits past) (stat s₁.world).1
    by_cases hover : CoreTicks.Overflows (stat s₁.world).1
    · have houtcome : r.outcome = .error (.panicked .sumOverflow) := by
        rw [CpuReadings.outcome, ← hanswer, hstop hover]
      rw [houtcome]
      exact .tooLarge (.inr hover)
    · obtain ⟨told, htold⟩ := htold hover
      rw [htold] at hanswer
      rcases Nat.lt_or_ge (r.user.toNat + r.system.toNat) UInt64.size with hsum | hsum
      · obtain ⟨cores, houtcome, _⟩ := CpuReadings.outcome_of_fits hsum fun cause hcause =>
          by cases hanswer.trans hcause
        rw [houtcome]
        exact .computed hsum hover
      · have houtcome : r.outcome = .error (.panicked .sumOverflow) := by
          rw [CpuReadings.outcome, ← hanswer]
          simp only [computeCoreUsage_of_le hsum]
        rw [houtcome]
        exact .tooLarge (.inl hsum)

/-- A container that was in its programs for as long as can be told, and once in the system. -/
private def busySource : SampleSource Unit :=
  SampleSource.withStatistics
    { readText := fun path w =>
        (.ok (if path = "usage" then "5" else "user 18446744073709551615\nsystem 1\n"), w)
      now := fun w => (.ok ⟨0⟩, w)
      sleep := fun _ w => (.ok (), w)
      hostShares := fun w => (.ok (.ok []), w)
      hostFree := fun w => (.ok (.ok 0), w) }
    [] fun w => (.ok "cpu0 1 2 3 4 5 6 7 8\n", w)

/-- Its files can be read, and yet the call stops. -/
theorem cpu_stops_on_busy_container :
    (∃ read, (readCpu busySource .zero "a" ⟨"usage", "stat", .v1⟩ { world := () }).1 =
      .ok (.ok read)) ∧
    (cpu busySource .zero "a" ⟨"usage", "stat", .v1⟩ { world := () }).1 =
      .error (.panicked .sumOverflow) :=
  ⟨⟨_, rfl⟩, rfl⟩

end Sampler

end Periscope
