import Periscope.Proofs.Sampling.Course

/-!
# Samples of a container abut

The cache holds for each container the counters and the time of its latest successful call,
whatever was sampled or failed in between. So a sample begins where the one before it ended,
in its counters and in its time: nothing is left out and nothing is counted twice.
-/

namespace Periscope

variable {σ α : Type} [Figure α]

/-- The use of the cores can be computed if user and system time have a sum. -/
theorem computeCoreUsage_ok (before current : List UInt64) (interval : Duration)
    {user system : UInt64} (host : List (HostShares α))
    (h : user.toNat + system.toNat < UInt64.size) :
    ∃ cores, computeCoreUsage before current interval user system host = .ok cores := by
  simp [computeCoreUsage, tickWeights, addWords, h, bind, Except.bind, pure, Except.pure]

namespace Sampler

/-- A call for the processor use of a container: what was there before, what it came to and
what was there after it. -/
structure CpuStep (σ : Type) where
  /-- The container. -/
  id : String
  /-- Its files. -/
  files : CpuFiles
  /-- The session before the call. -/
  before : Session σ
  /-- What the call came to. -/
  outcome : Except Halt (Except CrawlError (List (CoreUsage Float)))
  /-- The session after the call. -/
  after : Session σ

/-- Calls in a row, each of which finds the session that the one before it has left. A call
that failed or stopped does not keep the next from being made. -/
def steps (source : SampleSource σ) (wait : Duration) :
    List (String × CpuFiles) → Session σ → List (CpuStep σ)
  | [], _ => []
  | (id, files) :: rest, s =>
    let (outcome, after) := cpu source wait id files s
    ⟨id, files, s, outcome, after⟩ :: steps source wait rest after

variable {source : SampleSource σ} {wait : Duration} {s : Session σ} {id : String}
  {past : List (CpuStep σ)} {step : CpuStep σ}

namespace CpuStep

/-- Whether a call has returned the use of the cores. -/
def succeeded (step : CpuStep σ) : Bool :=
  match step.outcome with
  | .ok (.ok _) => true
  | _ => false

/-- The readings are what the world answered to a call. -/
def Read (source : SampleSource σ) (wait : Duration) (step : CpuStep σ) (r : CpuReadings) : Prop :=
  r.ReadIn source wait step.files (Pairs.find? step.id step.before.samples) step.before.world
    step.after.world

/-- User and system time have a sum, and the host's figures are in range. -/
def Fits (source : SampleSource σ) (wait : Duration) (step : CpuStep σ) : Prop :=
  ∀ r, step.Read source wait r →
    r.user.toNat + r.system.toNat < UInt64.size ∧ ∀ cause, r.host ≠ .error cause

end CpuStep

/-- The latest successful call for a container. -/
def latest (id : String) (past : List (CpuStep σ)) : Option (CpuStep σ) :=
  past.reverse.find? fun step => step.id = id ∧ step.succeeded

theorem latest_append_singleton :
    latest id (past ++ [step]) =
      if step.id = id ∧ step.succeeded then some step else latest id past := by
  rw [latest, List.reverse_append, List.reverse_singleton, List.singleton_append, List.find?_cons]
  by_cases h : step.id = id ∧ step.succeeded = true
  · simp [h]
  · rw [if_neg h]
    simp [h, latest]

/-- The cache holds what the latest successful calls have read, and nothing else. -/
structure Holds (source : SampleSource σ) (wait : Duration) (past : List (CpuStep σ))
    (cache : SampleCache) : Prop where
  /-- Without a successful call for a container there is no sample of it. -/
  unsampled : ∀ id, latest id past = none → Pairs.find? id cache = none
  /-- Otherwise there are the later counters of the latest one, and their time. -/
  sampled : ∀ id step, latest id past = some step →
    ∃ r, step.Read source wait r ∧ Pairs.find? id cache = some r.sample

/-- What a call does after others: it keeps the cache up to date, and a warm one goes on where
the latest one ended. -/
structure CpuStep.Continues (source : SampleSource σ) (wait : Duration) (past : List (CpuStep σ))
    (step : CpuStep σ) : Prop where
  /-- Before the call the cache holds the latest samples. -/
  before : Holds source wait past step.before.samples
  /-- So it does after the call. -/
  after : Holds source wait (past ++ [step]) step.after.samples
  /-- A call that returns no figures leaves the cache alone. -/
  failed : step.succeeded = false → step.after.samples = step.before.samples
  /-- Each call leaves the samples of other containers alone. -/
  others : ∀ id, id ≠ step.id →
    Pairs.find? id step.after.samples = Pairs.find? id step.before.samples
  /-- A successful call whose clock shows a later time than the kept sample computes the use
  from there on, with the user and system time and the host's figures that it has read. -/
  warm : ∀ cached cores, Pairs.find? step.id step.before.samples = some cached →
    step.outcome = .ok (.ok cores) → ∃ r, step.Read source wait r ∧
      Pairs.find? step.id step.after.samples = some r.sample ∧
      (cached.sampledAt.nanos < r.time.nanos →
        computeCoreUsage cached.counters r.sample.counters
          (r.sample.sampledAt.since cached.sampledAt) r.user r.system r.shares = .ok cores)
  /-- Then its window begins where that of the latest successful call for the container ended. -/
  abuts : ∀ previous, latest step.id past = some previous → step.succeeded = true →
    ∃ earlier r, previous.Read source wait earlier ∧ step.Read source wait r ∧
      (earlier.sample.sampledAt.nanos < r.time.nanos →
        r.window.before = earlier.window.current ∧
          r.window.interval = r.window.sampledAt.since earlier.window.sampledAt)

/-- A usable sample of before is where the window begins. -/
theorem WindowRead.warm_of_lt {files : CpuFiles} {previous : Option Sample} {cached : Sample}
    {time : Instant} {window : CounterWindow} {w w' : σ}
    (h : WindowRead source wait files previous w time window w')
    (hprevious : previous = some cached) (hlater : cached.sampledAt.nanos < time.nanos) :
    window.before = cached.counters ∧
      window.interval = window.sampledAt.since cached.sampledAt := by
  subst hprevious
  cases h with
  | warm hclock husable hcurrent =>
    simp only [usable?, if_pos hlater, Option.some.injEq, Prod.mk.injEq] at husable
    obtain ⟨rfl, rfl⟩ := husable
    exact ⟨rfl, rfl⟩
  | cold hclock hunusable => simp [usable?, hlater] at hunusable

/-- A call that has read everything succeeds if its readings fit. -/
theorem CpuReadings.outcome_of_fits {r : CpuReadings}
    (hsum : r.user.toNat + r.system.toNat < UInt64.size) (hhost : ∀ cause, r.host ≠ .error cause) :
    ∃ cores, r.outcome = .ok (.ok cores) ∧ computeCoreUsage r.window.before r.window.current
      r.window.interval r.user r.system r.shares = .ok cores := by
  obtain ⟨cores, hcores⟩ := computeCoreUsage_ok r.window.before r.window.current r.window.interval
    r.shares hsum
  refine ⟨cores, ?_, hcores⟩
  cases hread : r.host with
  | error cause => exact absurd hread (hhost cause)
  | ok told => simp only [outcome, hread, hcores]

/-- A call leaves the cache alone, or it succeeds and keeps the sample that it has read. -/
inductive CpuStep.Course (source : SampleSource σ) (wait : Duration) (step : CpuStep σ) : Prop where
  /-- It returns no figures. -/
  | failed (hfailed : step.succeeded = false) (hsame : step.after.samples = step.before.samples)
  /-- It returns the figures of its readings. -/
  | sampled {r : CpuReadings} {cores : List (CoreUsage Float)} (hread : step.Read source wait r)
      (houtcome : step.outcome = .ok (.ok cores))
      (hcores : computeCoreUsage r.window.before r.window.current r.window.interval r.user r.system
        r.shares = .ok cores)
      (hsample : step.after.samples = Pairs.insert step.id r.sample step.before.samples)

/-- A call whose readings fit takes one of these courses. -/
theorem CpuStep.course (hcall : cpu source wait step.id step.files step.before =
    (step.outcome, step.after)) (hfits : step.Fits source wait) : step.Course source wait := by
  obtain ⟨id, files, s, outcome, s'⟩ := step
  cases cpu_course (show cpu source wait id files s = (outcome, s') from hcall) with
  | unread _ hasks =>
    obtain ⟨world, rfl⟩ := hasks
    exact .failed rfl rfl
  | stopped _ hasks =>
    obtain ⟨world, rfl⟩ := hasks
    exact .failed rfl rfl
  | @sampled r _ _ _ _ hread htells =>
    obtain ⟨hsum, hhost⟩ := hfits r hread
    obtain ⟨cores, houtcome, hcores⟩ := CpuReadings.outcome_of_fits hsum hhost
    obtain ⟨world, notes, _, rfl⟩ := htells
    exact .sampled hread houtcome hcores rfl

/-- A call that finds the latest samples continues them. -/
theorem CpuStep.Course.continues (h : step.Course source wait)
    (hbefore : Holds source wait past step.before.samples) : step.Continues source wait past := by
  cases h with
  | failed hfailed hsame =>
    have hlatest (id : String) : latest id (past ++ [step]) = latest id past := by
      rw [latest_append_singleton, if_neg (by simp [hfailed])]
    refine ⟨hbefore, ⟨fun id hnone => ?_, fun id previous hsome => ?_⟩, fun _ => hsame,
      fun id _ => by rw [hsame], fun cached cores _ houtcome => ?_, fun _ _ hsucceeded => ?_⟩
    · rw [hlatest] at hnone
      rw [hsame]
      exact hbefore.unsampled id hnone
    · rw [hlatest] at hsome
      rw [hsame]
      exact hbefore.sampled id previous hsome
    · simp [succeeded, houtcome] at hfailed
    · simp [hfailed] at hsucceeded
  | @sampled r cores hread houtcome hcores hsample =>
    have hsucceeded : step.succeeded = true := by simp [succeeded, houtcome]
    have hkept : Pairs.find? step.id step.after.samples = some r.sample := by
      rw [hsample, Pairs.find?_insert_self]
    have hothers (id : String) (hid : id ≠ step.id) :
        Pairs.find? id step.after.samples = Pairs.find? id step.before.samples := by
      rw [hsample, Pairs.find?_insert_of_ne hid]
    have hlatest (id : String) :
        latest id (past ++ [step]) = if id = step.id then some step else latest id past := by
      rw [latest_append_singleton]
      simp [hsucceeded, eq_comm]
    refine ⟨hbefore, ⟨fun id hnone => ?_, fun id previous hsome => ?_⟩, ?_, hothers, ?_, ?_⟩
    · rw [hlatest] at hnone
      split at hnone
      · cases hnone
      · next hid => rw [hothers id hid, hbefore.unsampled id hnone]
    · rw [hlatest] at hsome
      split at hsome
      · next hid =>
        obtain rfl := Option.some.inj hsome
        exact ⟨r, hread, hid ▸ hkept⟩
      · next hid =>
        rw [hothers id hid]
        exact hbefore.sampled id previous hsome
    · simp [hsucceeded]
    · intro cached cores' hcached houtcome'
      obtain rfl : cores' = cores := by simpa [houtcome'] using houtcome
      refine ⟨r, hread, hkept, fun hlater => ?_⟩
      cases hread with
      | mk hwindow _ _ =>
        obtain ⟨hfirst, hinterval⟩ := hwindow.warm_of_lt hcached hlater
        rw [← hcores, hfirst, hinterval]
        rfl
    · intro previous hprevious _
      obtain ⟨earlier, hearlier, hcached⟩ := hbefore.sampled step.id previous hprevious
      refine ⟨earlier, r, hearlier, hread, fun hlater => ?_⟩
      cases hread with
      | mk hwindow _ _ => exact hwindow.warm_of_lt hcached hlater

/-- Calls after others continue them one by one. -/
theorem continues_of_holds {calls : List (String × CpuFiles)}
    (hfits : ∀ step ∈ steps source wait calls s, step.Fits source wait)
    (hbefore : Holds source wait past s.samples) {front later : List (CpuStep σ)}
    (hsplit : steps source wait calls s = front ++ step :: later) :
    step.Continues source wait (past ++ front) := by
  induction calls generalizing s past front with
  | nil => simp [steps] at hsplit
  | cons call rest ih =>
    obtain ⟨id, files⟩ := call
    generalize hcall : cpu source wait id files s = out
    obtain ⟨outcome, after⟩ := out
    have hsteps : steps source wait ((id, files) :: rest) s =
        ⟨id, files, s, outcome, after⟩ :: steps source wait rest after := by
      rw [steps, hcall]
    rw [hsteps] at hsplit hfits
    obtain ⟨hfirst, hrest⟩ := List.forall_mem_cons.mp hfits
    have hcourse : CpuStep.Course source wait ⟨id, files, s, outcome, after⟩ :=
      CpuStep.course hcall hfirst
    have hcontinues := hcourse.continues hbefore
    cases front with
    | nil =>
      obtain ⟨rfl, _⟩ := List.cons.inj hsplit
      simpa using hcontinues
    | cons first front =>
      obtain ⟨rfl, htail⟩ := List.cons.inj hsplit
      rw [List.append_cons]
      exact ih hrest hcontinues.after htail

/-- **Samples abut.** Calls for the containers of a machine are made in any order, over files,
a clock and host figures that may answer anything, starting with an empty cache; no sum of
user and system time leaves its range and the host's figures stop no call. Then before and
after each call the cache holds for each container the later counters and the time of its
latest successful call, and nothing for others; a call that fails or stops leaves the cache
alone; and a successful call with a clock later than the kept sample computes the use from
that sample on, so that its window begins where the one before it ended. -/
theorem cpu_samples_abut (source : SampleSource σ) (wait : Duration)
    (calls : List (String × CpuFiles)) (s : Session σ)
    (hfits : ∀ step ∈ steps source wait calls { s with samples := [] }, step.Fits source wait)
    (past later : List (CpuStep σ)) (step : CpuStep σ)
    (hsplit : steps source wait calls { s with samples := [] } = past ++ step :: later) :
    step.Continues source wait past := by
  have hempty : Holds source wait [] ([] : SampleCache) :=
    ⟨fun _ _ => rfl, fun _ _ hsome => by simp [latest] at hsome⟩
  simpa using continues_of_holds hfits hempty hsplit

/-- A machine on which nothing happens but that the clock goes on. -/
private def idleSource : SampleSource Nat where
  readText path w := (.ok (if path = "usage" then "40 50" else "user 1\nsystem 2\n"), w)
  now w := (.ok ⟨w⟩, w + 1)
  sleep _ w := (.ok (), w)
  hostShares w := (.ok (.ok []), w)
  hostFree w := (.ok (.ok 0), w)

private def idleFiles : CpuFiles := ⟨"usage", "stat", .v1⟩

private theorem fits_of_idle {step : CpuStep Nat} (h : step.files = idleFiles) :
    step.Fits idleSource .zero := by
  have hticks : idleFiles.userSystem "user 1\nsystem 2\n" = .ok (1, 2) := by decide +kernel
  intro r hread
  cases hread with
  | mk hwindow hread hhost =>
    cases hread with
    | mk hcontent hvalue =>
      rw [h] at hcontent hvalue
      obtain ⟨hcontent, _⟩ := Prod.mk.inj hcontent
      obtain rfl := Except.ok.inj hcontent
      have hboth := Except.ok.inj (hticks.symm.trans hvalue)
      obtain ⟨huser, hsystem⟩ := Prod.mk.inj hboth
      obtain ⟨hhost, _⟩ := Prod.mk.inj hhost
      refine ⟨by rw [← huser, ← hsystem]; decide, fun cause hcause => ?_⟩
      rw [← hhost] at hcause
      cases hcause

/-- Of two calls for a container the second goes on where the first ended. -/
theorem cpu_samples_abut_idle :
    ∃ first second,
      steps idleSource .zero [("a", idleFiles), ("a", idleFiles)] { world := 0 } = [first, second] ∧
      (∀ step ∈ [first, second], step.Fits idleSource .zero ∧ step.succeeded = true) ∧
      second.Continues idleSource .zero [first] := by
  have hfits : ∀ step ∈ steps idleSource .zero [("a", idleFiles), ("a", idleFiles)] { world := 0 },
      step.Fits idleSource .zero := by
    intro step hstep
    refine fits_of_idle ?_
    rcases List.mem_cons.mp hstep with rfl | hstep
    · rfl
    · rw [List.mem_singleton.mp hstep]
  refine ⟨_, _, rfl, fun step hstep => ⟨hfits step hstep, ?_⟩, ?_⟩
  · rcases List.mem_cons.mp hstep with rfl | hstep
    · decide +kernel
    · rw [List.mem_singleton.mp hstep]
      decide +kernel
  · exact cpu_samples_abut idleSource .zero [("a", idleFiles), ("a", idleFiles)] { world := 0 }
      hfits [_] [] _ rfl

end Sampler

end Periscope
