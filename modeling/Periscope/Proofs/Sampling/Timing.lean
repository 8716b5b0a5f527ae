import Periscope.Proofs.Sampling.Sleeping

/-!
# Time in sampling

Whether a call goes on from the cached sample, what it divides by and which time it keeps depend
on up to three readings of a clock that need not be in order. Along calls in a row the kept times
follow the clock: where it never goes back, they do not either, unless one of them was ahead of
it to begin with.
-/

namespace Periscope.Sampler

variable {σ α β : Type}

section Forgetting

variable {source : SampleSource σ} {wait : Duration} {id : String} {files : CpuFiles}
  {s s' : Session σ} {time : Instant} {w₁ : σ}

/-- The cache with a sample of a container, if there is one to keep. -/
def keep (id : String) (kept : Option Sample) (cache : SampleCache) : SampleCache :=
  kept.elim cache fun sample => Pairs.insert id sample cache

/-- Two sessions that differ in their caches. -/
private def Caches (cache other : SampleCache) (s t : Session σ) : Prop :=
  s.samples = cache ∧ t = { s with samples := other }

private theorem caches_mirrors (source : SampleSource σ) (cache other : SampleCache) :
    source.Mirrors (Caches cache other) source where
  readText path := by
    rintro s t ⟨rfl, rfl⟩
    exact ⟨rfl, rfl, rfl⟩
  now := by
    rintro s t ⟨rfl, rfl⟩
    exact ⟨rfl, rfl, rfl⟩
  sleep d := by
    rintro s t ⟨rfl, rfl⟩
    exact ⟨rfl, rfl, rfl⟩
  hostShares := by
    rintro s t ⟨rfl, rfl⟩
    exact ⟨rfl, rfl, rfl⟩
  notice n := by
    rintro s t ⟨rfl, rfl⟩
    exact ⟨rfl, rfl, rfl⟩

/-- A call that mirrors itself whatever the caches are neither reads nor changes the cache. -/
private theorem forgets_of_mirrors {a : Call σ α} {r : Except Halt α}
    (h : ∀ cache other, Call.Mirrors (Caches cache other) a a) (hrun : a s = (r, s'))
    (cache : SampleCache) : s'.samples = s.samples ∧
      a { s with samples := cache } = (r, { s' with samples := cache }) := by
  obtain ⟨hends, hsame, hleft⟩ := h s.samples cache s { s with samples := cache } ⟨rfl, rfl⟩
  rw [hrun] at hends hsame hleft
  exact ⟨hsame, Prod.ext hends.symm hleft⟩

/-- The part of a call that reads the files, without a sample of before. -/
private def readCold (source : SampleSource σ) (wait : Duration) (files : CpuFiles) :
    Reading σ (CounterWindow × UInt64 × UInt64) := do
  let window ← coldWindow source files wait
  return (window, ← readFile source files.stat files.userSystem)

private theorem readCold_mirrors (cache other : SampleCache) :
    Call.Mirrors (Caches cache other) (readCold source wait files) (readCold source wait files) :=
  have h := caches_mirrors source cache other
  Reading.Mirrors.bind (coldWindow_mirrors h) fun _ =>
    (readFile_mirrors (h.readText _) _).bind fun _ => .pure _

/-- Without a usable sample the files are read as if there were none. -/
private theorem readCpu_of_cold (hclock : source.now s.world = (.ok time, w₁))
    (hcold : ¬ Warm (Pairs.find? id s.samples) time) :
    readCpu source wait id files s = readCold source wait files { s with world := w₁ } := by
  have hask : Call.ask source.now s = (.ok time, { s with world := w₁ }) := by
    refine (Call.perform_bind _ Call.checked s).trans ?_
    have hreading : Action.ask source.now s = (.ok time, { s with world := w₁ }) := by
      rw [Action.ask, hclock]
    rw [hreading]
    rfl
  have hnow : now source s = (.ok (.ok time), { s with world := w₁ }) := Call.bind_of_ok _ hask
  have hwindow : window source wait id files s =
      coldWindow source files wait { s with world := w₁ } := by
    refine (Call.bind_of_ok _ hnow).trans ?_
    simp only [ExceptT.bindCont, usable?_of_cold hcold]
  exact Call.bind_congr _ hwindow

/-- A call without a usable sample of before does not depend on the cache: with any other cache
that has none either it comes to the same, and it keeps the same sample. -/
theorem cpu_forgets {outcome : Except Halt (Except CrawlError (List (CoreUsage Float)))}
    (hclock : source.now s.world = (.ok time, w₁))
    (hcold : ¬ Warm (Pairs.find? id s.samples) time)
    (h : cpu source wait id files s = (outcome, s')) :
    ∃ kept, s'.samples = keep id kept s.samples ∧
      ∀ cache, ¬ Warm (Pairs.find? id cache) time →
        cpu source wait id files { s with samples := cache } =
          (outcome, { s' with samples := keep id kept cache }) := by
  generalize hread : readCold source wait files { s with world := w₁ } = out
  obtain ⟨read, s₁⟩ := out
  have hfiles := (readCpu_of_cold hclock hcold).trans hread
  have hforgets := forgets_of_mirrors readCold_mirrors hread
  have hothers {cache : SampleCache} (hother : ¬ Warm (Pairs.find? id cache) time) :
      readCpu source wait id files { s with samples := cache } =
        (read, { s₁ with samples := cache }) :=
    (readCpu_of_cold (s := { s with samples := cache }) hclock hother).trans (hforgets cache).2
  have hkept : s₁.samples = s.samples := (hforgets []).1
  rw [cpu_eq] at h ⊢
  rcases Call.of_bind h with ⟨result, s₂, hresult, h⟩ | ⟨halt, hhalt, rfl⟩
  · obtain ⟨rfl, rfl⟩ := Prod.mk.inj (hfiles.symm.trans hresult)
    cases result with
    | error cause =>
      obtain ⟨rfl, rfl⟩ := Call.of_pure h
      exact ⟨none, hkept, fun cache hother => Call.bind_of_ok _ (hothers hother)⟩
    | ok figures =>
      obtain ⟨window, user, system⟩ := figures
      have hreports := forgets_of_mirrors (fun cache other =>
        reportCpu_mirrors (caches_mirrors source cache other) window user system)
        (show reportCpu source id window user system (keepWindow id window s₁) =
          (outcome, s') from h)
      refine ⟨some ⟨window.current, window.sampledAt⟩, ?_, fun cache hother => ?_⟩
      · exact (hreports []).1.trans (congrArg (Pairs.insert id _) hkept)
      · exact (Call.bind_of_ok _ (hothers hother)).trans (hreports (Pairs.insert id _ cache)).2
  · obtain ⟨rfl, rfl⟩ := Prod.mk.inj (hfiles.symm.trans hhalt)
    exact ⟨none, hkept, fun cache hother => Call.bind_of_error _ (hothers hother)⟩

end Forgetting

variable {source : SampleSource σ} {wait : Duration} {id : String} {files : CpuFiles}
  {step : CpuStep (σ × List Moment)}

/-- Where the use of the cores is computed from. -/
structure Baseline (source : SampleSource σ) (files : CpuFiles) (previous : Option Sample) (w : σ)
    (window : CounterWindow) : Prop where
  /-- A sample from before the first reading of the clock is where the window begins. -/
  warm : ∀ cached time w₁, source.now w = (.ok time, w₁) → previous = some cached →
    cached.sampledAt.nanos < time.nanos → window.before = cached.counters ∧
      window.interval.nanos = time.nanos - cached.sampledAt.nanos
  /-- Without one the counters are read anew behind it. -/
  cold : ∀ time w₁, source.now w = (.ok time, w₁) → ¬ Warm previous time →
    ∃ w₂, Reads source files.usage files.counters w₁ window.before w₂
  /-- Some time has passed. -/
  positive : 0 < window.interval.nanos

/-- What was noted while a window was read that begins with a reading of the clock. -/
structure Stamped (source : SampleSource σ) (w : σ) (time : Instant) (window : CounterWindow)
    (notes : List Moment) : Prop where
  /-- The clock shows it first. -/
  first : ∃ w₁, source.now w = (.ok time, w₁)
  /-- That is noted. -/
  firstNoted : time ∈ readings notes
  /-- So is the reading that the window ends with. -/
  lastNoted : window.sampledAt ∈ readings notes
  /-- It is no earlier, if the clock does not go back. -/
  ordered : NeverBack (readings notes) → time.nanos ≤ window.sampledAt.nanos

private theorem now_noted {w w' : σ × List Moment} {time : Instant}
    (h : source.timed.now w = (.ok time, w')) :
    source.now w.1 = (.ok time, w'.1) ∧ w'.2 = w.2 ++ [.clock (.ok time)] := by
  obtain ⟨hreading, rfl⟩ := Prod.mk.inj h
  exact ⟨Prod.ext hreading rfl, by rw [hreading]⟩

private theorem reads_unnoted {path : String} {value : String → Except IoError α} {x : α}
    {w w' : σ × List Moment} (h : Reads source.timed path value w x w') :
    Reads source path value w.1 x w'.1 ∧ w'.2 = w.2 := by
  obtain ⟨hread, hvalue⟩ := h
  obtain ⟨hcontent, rfl⟩ := Prod.mk.inj hread
  exact ⟨.mk (Prod.ext hcontent rfl) hvalue, rfl⟩

/-- A usable sample is from before. -/
private theorem of_usable? {previous : Option Sample} {time : Instant} {cached : Sample}
    {interval : Duration} (h : usable? previous time = some (cached, interval)) :
    previous = some cached ∧ cached.sampledAt.nanos < time.nanos ∧
      interval = time.since cached.sampledAt := by
  cases previous with
  | none => cases h
  | some sample =>
    by_cases hlater : sample.sampledAt.nanos < time.nanos
    · rw [usable?_of_lt hlater] at h
      obtain ⟨rfl, rfl⟩ := Prod.mk.inj (Option.some.inj h)
      exact ⟨rfl, hlater, rfl⟩
    · simp [usable?, hlater] at h

/-- A window with its notes. -/
private theorem WindowRead.noted {previous : Option Sample} {time : Instant}
    {window : CounterWindow} {w w' : σ × List Moment}
    (h : WindowRead source.timed wait files previous w time window w') :
    ∃ notes, w'.2 = w.2 ++ notes ∧ Stamped source w.1 time window notes ∧
      (0 < wait.nanos → (∀ time ∈ readings notes, time.nanos < Instant.limit) →
        Baseline source files previous w.1 window) := by
  obtain ⟨w₁, hclock⟩ : ∃ w₁, source.timed.now w = (.ok time, w₁) := by
    cases h with
    | warm hclock => exact ⟨_, hclock⟩
    | cold hclock => exact ⟨_, hclock⟩
  obtain ⟨hnow, hnotes⟩ := now_noted hclock
  have hfirst {reading : Instant} {w₂ : σ} (h : source.now w.1 = (.ok reading, w₂)) :
      reading = time ∧ w₂ = w₁.1 := by
    obtain ⟨hreading, hworld⟩ := Prod.mk.inj (h.symm.trans hnow)
    exact ⟨Except.ok.inj hreading, hworld⟩
  cases h with
  | @warm sample interval current w₁' _ hclock' husable hcurrent =>
    obtain rfl : w₁' = w₁ := (Prod.mk.inj (hclock'.symm.trans hclock)).2
    obtain ⟨_, hsame⟩ := reads_unnoted hcurrent
    obtain ⟨rfl, hlater, rfl⟩ := of_usable? husable
    refine ⟨[.clock (.ok time)], hsame.trans hnotes, ⟨⟨_, hnow⟩, ?_, ?_, fun _ => le_rfl⟩,
      fun _ hshown => ?_⟩
    · simp [readings, Moment.reading?]
    · simp [readings, Moment.reading?]
    · have hinterval : (time.since sample.sampledAt).nanos = time.nanos - sample.sampledAt.nanos :=
        Instant.nanos_since (hshown time (by simp [readings, Moment.reading?]))
      refine ⟨fun cached reading w₂ h hcached _ => ?_, fun reading w₂ h hcold => ?_, ?_⟩
      · obtain rfl := Option.some.inj hcached
        rw [(hfirst h).1]
        exact ⟨rfl, hinterval⟩
      · rw [(hfirst h).1] at hcold
        exact absurd ⟨sample, rfl, hlater⟩ hcold
      · rw [hinterval]
        omega
  | @cold start finish before current w₁' _ _ _ _ _ hclock' hunusable hbefore hstart hsleep
      hcurrent hfinish =>
    obtain rfl : w₁' = w₁ := (Prod.mk.inj (hclock'.symm.trans hclock)).2
    obtain ⟨hreads, hsame⟩ := reads_unnoted hbefore
    obtain ⟨_, hbegun⟩ := now_noted hstart
    obtain ⟨_, rfl⟩ := Prod.mk.inj hsleep
    obtain ⟨_, hagain⟩ := reads_unnoted hcurrent
    obtain ⟨_, hended⟩ := now_noted hfinish
    refine ⟨[.clock (.ok time), .clock (.ok start), .asleep wait, .clock (.ok finish)], ?_,
      ⟨⟨_, hnow⟩, ?_, ?_, fun hordered => ?_⟩, fun hwait hshown => ?_⟩
    · rw [hended, hagain, hbegun, hsame, hnotes]
      simp
    · simp [readings, Moment.reading?]
    · simp [readings, Moment.reading?]
    · have hlater : ∀ later ∈ [start, finish], time.nanos ≤ later.nanos := fun _ hmem =>
        List.rel_of_pairwise_cons hordered hmem
      exact hlater finish (by simp)
    · refine ⟨fun cached reading w₂ h hcached hlater => ?_, fun reading w₂ h _ => ?_, ?_⟩
      · rw [(hfirst h).1] at hlater
        rw [hcached, usable?_of_lt hlater] at hunusable
        cases hunusable
      · rw [(hfirst h).2]
        exact ⟨_, hreads⟩
      · have hlimit := hshown finish (by simp [readings, Moment.reading?])
        dsimp only
        split
        · rw [Instant.nanos_since hlimit]
          omega
        · exact hwait

namespace CpuStep

/-- What was noted during a call. -/
def notes (step : CpuStep (σ × List Moment)) : List Moment :=
  step.after.world.2.drop step.before.world.2.length

/-- A call without the notes beside the world. -/
def unheard (step : CpuStep (σ × List Moment)) : CpuStep σ :=
  ⟨step.id, step.files, step.before.unheard, step.outcome, step.after.unheard⟩

/-- The sample that a call finds in the cache. -/
def previous (step : CpuStep σ) : Option Sample := Pairs.find? step.id step.before.samples

/-- What a call leaves in the cache: what was there, or the counters of the window that it has
read. -/
inductive Keeps (source : SampleSource σ) (step : CpuStep (σ × List Moment)) : Prop where
  /-- Nothing is kept. -/
  | nothing (hsame : step.after.samples = step.before.samples)
  /-- The counters of a window are kept. -/
  | window {time : Instant} {window : CounterWindow}
      (hkept : step.after.samples =
        Pairs.insert step.id ⟨window.current, window.sampledAt⟩ step.before.samples)
      (hstamped : Stamped source step.before.world.1 time window step.notes)

/-- What is found in the cache after a call. -/
private theorem Keeps.found (h : step.Keeps source) (id : String) :
    Pairs.find? id step.after.samples = Pairs.find? id step.before.samples ∨
      id = step.id ∧ ∃ time window,
        Pairs.find? id step.after.samples = some ⟨window.current, window.sampledAt⟩ ∧
          Stamped source step.before.world.1 time window step.notes := by
  cases h with
  | nothing hsame => exact .inl (by rw [hsame])
  | @window time window hkept hstamped =>
    by_cases hid : id = step.id
    · exact .inr ⟨hid, time, window, by rw [hkept, hid, Pairs.find?_insert_self], hstamped⟩
    · exact .inl (by rw [hkept, Pairs.find?_insert_of_ne hid])

/-- What a call does about time. -/
structure Timed (source : SampleSource σ) (wait : Duration) (step : CpuStep (σ × List Moment)) :
    Prop where
  /-- It sleeps so long. -/
  sleeps : Sleeping source wait step.files step.previous step.before.world.1 (sleeps step.notes)
  /-- Once it has read the files, it keeps the counters and computes the use of the cores from
  where it goes on, over some time. -/
  reports : ∀ window user system s₁,
    readCpu source wait step.id step.files step.before.unheard =
      (.ok (.ok (window, user, system)), s₁) →
    reportCpu source step.id window user system (keepWindow step.id window s₁) =
        (step.outcome, step.after.unheard) ∧
      Baseline source step.files step.previous step.before.world.1 window
  /-- Without a sample from before the first reading of the clock, what was cached has no part in
  what the call comes to and in what it keeps. -/
  forgets : ∀ time w₁, source.now step.before.world.1 = (.ok time, w₁) → ¬ Warm step.previous time →
    ∃ kept, step.after.samples = keep step.id kept step.before.samples ∧
      ∀ cache, ¬ Warm (Pairs.find? step.id cache) time →
        cpu source wait step.id step.files { step.before.unheard with samples := cache } =
          (step.outcome, { step.after.unheard with samples := keep step.id kept cache })
  /-- If the clock does not go back, no cached time does, unless it was ahead of the first
  reading. -/
  stamps : NeverBack (readings step.notes) → ∀ id cached,
    Pairs.find? id step.before.samples = some cached →
    ∃ kept, Pairs.find? id step.after.samples = some kept ∧
      (cached.sampledAt.nanos ≤ kept.sampledAt.nanos ∨
        id = step.id ∧ ∃ time w₁, source.now step.before.world.1 = (.ok time, w₁) ∧
          time.nanos < cached.sampledAt.nanos)

/-- Notes that were added are those of the call. -/
private theorem notes_eq {notes : List Moment}
    (h : step.after.world.2 = step.before.world.2 ++ notes) : step.notes = notes := by
  rw [CpuStep.notes, h, List.drop_left]

/-- Who listens to a call disturbs nothing. -/
private theorem unheard_call (hcall : cpu source.timed wait step.id step.files step.before =
    (step.outcome, step.after)) : cpu source wait step.id step.files step.before.unheard =
      (step.outcome, step.after.unheard) := by
  obtain ⟨hends, hleft⟩ := cpu_mirrors source.timed_mirrors (by rintro s t rfl; rfl)
    (by rintro s t rfl window; rfl) step.before.unheard step.before rfl
  rw [hcall] at hends hleft
  exact Prod.ext hends hleft

/-- The sleeps of a call, and what it keeps. -/
private theorem noted_call (hcall : cpu source.timed wait step.id step.files step.before =
    (step.outcome, step.after)) :
    Sleeping source wait step.files step.previous step.before.world.1
        (Periscope.sleeps step.notes) ∧
      step.Keeps source ∧
      (0 < wait.nanos → (∀ time ∈ readings step.notes, time.nanos < Instant.limit) →
        ∀ window user system s₁, readCpu source.timed wait step.id step.files step.before =
          (.ok (.ok (window, user, system)), s₁) →
        Baseline source step.files step.previous step.before.world.1 window) := by
  obtain ⟨id, files, s, outcome, s'⟩ := step
  cases cpu_course (show cpu source.timed wait id files s = (outcome, s') from hcall) with
  | unread hfiles hasks =>
    obtain ⟨world, rfl⟩ := hasks
    obtain ⟨lengths, ⟨notes, hnotes, rfl⟩, hsleeping⟩ := sleeping_readCpu hfiles
    rw [notes_eq hnotes]
    refine ⟨hsleeping, .nothing rfl, fun _ _ window user system s₁ hread => ?_⟩
    rw [hfiles] at hread
    cases hread
  | stopped hfiles hasks =>
    obtain ⟨world, rfl⟩ := hasks
    obtain ⟨lengths, ⟨notes, hnotes, rfl⟩, hsleeping⟩ := sleeping_readCpu hfiles
    rw [notes_eq hnotes]
    refine ⟨hsleeping, .nothing rfl, fun _ _ window user system s₁ hread => ?_⟩
    rw [hfiles] at hread
    cases hread
  | @sampled r s₁ _ hfiles hhost hread htells =>
    obtain ⟨lengths, ⟨notes, hnotes, rfl⟩, hsleeping⟩ := sleeping_readCpu hfiles
    have hquiet : s'.world.2 = s₁.world.2 := (congrArg (fun answer => answer.2.2) hhost).symm
    obtain ⟨hwindow, hticks, hagain⟩ := hread
    obtain ⟨more, hmore, hstamped, hbaseline⟩ := hwindow.noted
    obtain rfl : more = notes := by
      have hboth : s'.world.2 = s.world.2 ++ more :=
        (congrArg (fun answer => answer.2.2) hagain).symm.trans
          ((reads_unnoted hticks).2.trans hmore)
      exact List.append_cancel_left (hboth.symm.trans (hquiet.trans hnotes))
    have hstep : CpuStep.notes ⟨id, files, s, r.outcome, s'⟩ = more :=
      notes_eq (hquiet.trans hnotes)
    obtain ⟨world, told, _, rfl⟩ := htells
    rw [hstep]
    refine ⟨hsleeping, .window rfl (hstep.symm ▸ hstamped), ?_⟩
    intro hwait hshown window user system s₂ hread
    rw [hfiles] at hread
    obtain ⟨rfl, _⟩ := Prod.mk.inj (Except.ok.inj (Except.ok.inj (Prod.mk.inj hread).1))
    exact hbaseline hwait hshown

/-- A call does about time what is said here. -/
theorem timed (hwait : 0 < wait.nanos) (hcall : cpu source.timed wait step.id step.files
    step.before = (step.outcome, step.after))
    (hshown : ∀ time ∈ readings step.notes, time.nanos < Instant.limit) :
    step.Timed source wait := by
  obtain ⟨hsleeping, hkeeps, hbaseline⟩ := noted_call hcall
  have hplain := unheard_call hcall
  refine ⟨hsleeping, fun window user system s₁ hread => ⟨?_, ?_⟩,
    fun time w₁ hclock hcold => cpu_forgets (s := step.before.unheard) hclock hcold hplain,
    fun hordered id cached hcached => ?_⟩
  · rw [cpu_eq] at hplain
    exact (Call.bind_of_ok _ hread).symm.trans hplain
  · have hmirrors : Reading.Mirrors Session.Beside (readCpu source wait step.id step.files)
        (readCpu source.timed wait step.id step.files) :=
      readCpu_mirrors source.timed_mirrors (by rintro s t rfl; rfl)
    obtain ⟨hends, _⟩ := hmirrors step.before.unheard step.before rfl
    have hread' : (readCpu source.timed wait step.id step.files step.before).1 =
        .ok (.ok (window, user, system)) := hends.symm.trans (congrArg Prod.fst hread)
    exact hbaseline hwait hshown window user system _ (Prod.ext hread' rfl)
  · rcases hkeeps.found id with hsame | ⟨rfl, time, window, hkept, hstamped⟩
    · exact ⟨cached, hsame.trans hcached, .inl le_rfl⟩
    · refine ⟨_, hkept, ?_⟩
      rcases Nat.lt_or_ge time.nanos cached.sampledAt.nanos with hahead | hbehind
      · obtain ⟨w₁, hclock⟩ := hstamped.first
        exact .inr ⟨rfl, time, w₁, hclock, hahead⟩
      · exact .inl (hbehind.trans (hstamped.ordered hordered))

end CpuStep

/-- Calls in a row, with who listens to the clock. -/
def timedSteps (source : SampleSource σ) (wait : Duration) (calls : List (String × CpuFiles))
    (s : Session σ) : List (CpuStep (σ × List Moment)) :=
  steps source.timed wait calls (s.inWorld (s.world, []))

theorem call_of_mem_steps {calls : List (String × CpuFiles)} {s : Session σ} {step : CpuStep σ}
    (h : step ∈ steps source wait calls s) :
    cpu source wait step.id step.files step.before = (step.outcome, step.after) := by
  induction calls generalizing s with
  | nil => cases h
  | cons call rest ih =>
    rw [steps] at h
    rcases List.mem_cons.mp h with rfl | h
    · rfl
    · exact ih h

/-- Calls in a row are the same without who listens. -/
theorem unheard_steps (calls : List (String × CpuFiles)) (t : Session (σ × List Moment)) :
    (steps source.timed wait calls t).map CpuStep.unheard = steps source wait calls t.unheard := by
  induction calls generalizing t with
  | nil => rfl
  | cons call rest ih =>
    obtain ⟨id, files⟩ := call
    generalize hcall : cpu source.timed wait id files t = out
    obtain ⟨outcome, t'⟩ := out
    have hplain : cpu source wait id files t.unheard = (outcome, t'.unheard) :=
      @CpuStep.unheard_call _ _ _ ⟨id, files, t, outcome, t'⟩ hcall
    rw [steps, steps, hcall, hplain, List.map_cons, ih]
    rfl

/-- A cached time is not ahead of the clock. -/
def Behind (id : String) (cache : SampleCache) (times : List Instant) : Prop :=
  ∀ cached, Pairs.find? id cache = some cached → ∀ time ∈ times,
    cached.sampledAt.nanos ≤ time.nanos

/-- Where the clock never goes back along calls in a row, a cached time that is not ahead of it
stays so, and never goes back either. -/
private theorem stamps_follow {calls : List (String × CpuFiles)} {t : Session (σ × List Moment)}
    (hordered : NeverBack (readings ((steps source.timed wait calls t).flatMap CpuStep.notes)))
    (hbehind : Behind id t.samples
      (readings ((steps source.timed wait calls t).flatMap CpuStep.notes)))
    (hstep : step ∈ steps source.timed wait calls t) {cached : Sample}
    (hcached : Pairs.find? id step.before.samples = some cached) :
    ∃ kept, Pairs.find? id step.after.samples = some kept ∧
      cached.sampledAt.nanos ≤ kept.sampledAt.nanos := by
  induction calls generalizing t with
  | nil => cases hstep
  | cons call rest ih =>
    obtain ⟨first, hbefore, hcall, hsteps⟩ : ∃ first : CpuStep (σ × List Moment),
        first.before = t ∧
        cpu source.timed wait first.id first.files first.before = (first.outcome, first.after) ∧
        steps source.timed wait (call :: rest) t =
          first :: steps source.timed wait rest first.after := ⟨⟨_, _, _, _, _⟩, rfl, rfl, rfl⟩
    rw [hsteps, List.flatMap_cons, readings_append] at hordered hbehind
    rw [hsteps] at hstep
    rw [← hbefore] at hbehind
    obtain ⟨hfirst, hrest, hcross⟩ := List.pairwise_append.mp hordered
    have hfound := (CpuStep.noted_call hcall).2.1.found id
    rcases List.mem_cons.mp hstep with rfl | hstep
    · rcases hfound with hsame | ⟨rfl, time, window, hkept, hstamped⟩
      · exact ⟨cached, hsame.trans hcached, le_rfl⟩
      · have hle := hbehind cached hcached time (List.mem_append_left _ hstamped.firstNoted)
        exact ⟨_, hkept, hle.trans (hstamped.ordered hfirst)⟩
    · refine ih hrest (fun cached' hcached' time htime => ?_) hstep
      rcases hfound with hsame | ⟨rfl, _, window, hkept, hstamped⟩
      · exact hbehind cached' (hsame.symm.trans hcached') time (List.mem_append_right _ htime)
      · obtain rfl := Option.some.inj (hkept.symm.trans hcached')
        exact hcross _ hstamped.lastNoted _ htime

/-- **The timing of samples.** Whatever the cache holds, whatever files and clock answer, and with
some time to wait: a call for the processor use of a container goes on from the cached sample just
if that is from before the first reading of the clock. Then it does not sleep; otherwise it sleeps
once, for the whole wait, as soon as it has read the counters, and what was cached has no part in
what it comes to. The time that it divides by is never zero. Along calls in a row in which the
clock never goes back, no cached time does, unless it was ahead of the clock to begin with. No
clock shows readings beyond the limit of its type; a listener who disturbs nothing notes what it
shows. -/
theorem cpu_timing (source : SampleSource σ) (wait : Duration) (hwait : 0 < wait.nanos)
    (calls : List (String × CpuFiles)) (s : Session σ)
    (hshown : ∀ time ∈ readings ((timedSteps source wait calls s).flatMap CpuStep.notes),
      time.nanos < Instant.limit) :
    (timedSteps source wait calls s).map CpuStep.unheard = steps source wait calls s ∧
      (∀ step ∈ timedSteps source wait calls s, step.Timed source wait) ∧
      (NeverBack (readings ((timedSteps source wait calls s).flatMap CpuStep.notes)) →
        ∀ id, Behind id s.samples
          (readings ((timedSteps source wait calls s).flatMap CpuStep.notes)) →
        ∀ step ∈ timedSteps source wait calls s, ∀ cached,
          Pairs.find? id step.before.samples = some cached →
          ∃ kept, Pairs.find? id step.after.samples = some kept ∧
            cached.sampledAt.nanos ≤ kept.sampledAt.nanos) := by
  refine ⟨unheard_steps calls _, fun step hstep => ?_,
    fun hordered id hbehind step hstep cached hcached =>
      stamps_follow hordered hbehind hstep hcached⟩
  refine CpuStep.timed hwait (call_of_mem_steps hstep) fun time htime => hshown time ?_
  obtain ⟨note, hnote, hreading⟩ := List.mem_filterMap.mp htime
  exact List.mem_filterMap.mpr ⟨note, List.mem_flatMap.mpr ⟨step, hstep, hnote⟩, hreading⟩

/-- A machine whose clock shows the numbers that it is given, and nothing behind them. -/
private def dialSource : SampleSource (List Nat) where
  readText path w := (.ok (if path = "usage" then "40 50" else "user 1\nsystem 2\n"), w)
  now
    | [] => (.error .instantOverflow, [])
    | time :: rest => (.ok ⟨time⟩, rest)
  sleep _ w := (.ok (), w)
  hostShares w := (.ok (.ok []), w)
  hostFree w := (.ok (.ok 0), w)

private def dialFiles : CpuFiles := ⟨"usage", "stat", .v1⟩

/-- The first of two calls sleeps, the second goes on from its sample. -/
theorem cpu_timing_dial :
    ∃ first second,
      timedSteps dialSource (.ofMillis 1) [("a", dialFiles), ("a", dialFiles)]
        { world := [5, 6, 6, 8] } = [first, second] ∧
      sleeps first.notes = [.ofMillis 1] ∧ sleeps second.notes = [] ∧
      first.Timed dialSource (.ofMillis 1) ∧ second.Timed dialSource (.ofMillis 1) ∧
      ∃ cached kept, Pairs.find? "a" second.before.samples = some cached ∧
        Pairs.find? "a" second.after.samples = some kept ∧
        cached.sampledAt.nanos ≤ kept.sampledAt.nanos := by
  obtain ⟨_, htimed, hfollow⟩ := cpu_timing dialSource (.ofMillis 1) (by decide)
    [("a", dialFiles), ("a", dialFiles)] { world := [5, 6, 6, 8] } (by decide +kernel)
  have hbehind : Behind "a" [] (readings ((timedSteps dialSource (.ofMillis 1)
      [("a", dialFiles), ("a", dialFiles)] { world := [5, 6, 6, 8] }).flatMap CpuStep.notes)) :=
    fun _ hcached => by cases hcached
  obtain ⟨kept, hkept⟩ := hfollow (by decide +kernel) "a" hbehind _
    (List.mem_cons_of_mem _ List.mem_cons_self) ⟨[40, 50], ⟨6⟩⟩ (by decide +kernel)
  exact ⟨_, _, rfl, rfl, rfl, htimed _ List.mem_cons_self,
    htimed _ (List.mem_cons_of_mem _ List.mem_cons_self), _, kept, by decide +kernel, hkept⟩

/-- A sample that is ahead of the clock is not gone on from, and the one that replaces it is older,
although the clock never goes back. A call whose clock shows nothing behind the counters that it
has read does not sleep. -/
theorem stamp_ahead_and_silent_clock :
    (NeverBack [⟨5⟩, ⟨6⟩, ⟨7⟩] ∧
      (timedSteps dialSource (.ofMillis 1) [("a", dialFiles)]
        { world := [5, 6, 7], samples := [("a", ⟨[40, 50], ⟨9⟩⟩)] }).map
        (fun step => (readings step.notes, step.before.samples, step.after.samples)) =
      [([⟨5⟩, ⟨6⟩, ⟨7⟩], [("a", ⟨[40, 50], ⟨9⟩⟩)], [("a", ⟨[40, 50], ⟨7⟩⟩)])]) ∧
    Reads dialSource dialFiles.usage dialFiles.counters [] [40, 50] [] ∧
      (timedSteps dialSource (.ofMillis 1) [("a", dialFiles)] { world := [5] }).map
        (fun step => (readings step.notes, sleeps step.notes)) = [([⟨5⟩], [])] :=
  ⟨by decide +kernel, .mk rfl (by decide +kernel), by decide +kernel⟩

end Periscope.Sampler
