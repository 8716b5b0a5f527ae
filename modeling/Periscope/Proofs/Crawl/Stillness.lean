import Periscope.Crawler
import Periscope.Proofs.Isolation.Mirroring
import Periscope.Proofs.Sampling.Mirroring

/-!
# Crawling a world that stands still

While a container is crawled its files stay as they are, and so does what the system answers
about namespaces and workers. Then only the clock and the host's processor figures move, and
only a sample of the processor asks for them. Every other attempt leaves world and cache as they
are and comes to the same wherever it is made.
-/

namespace Periscope

variable {σ α β : Type}

/-- In every world of a kind the question gets this answer, and the world stays as it is. -/
def Answers (holds : σ → Prop) (ask : σ → α × σ) (x : α) : Prop := ∀ w, holds w → ask w = (x, w)

/-- While the world is of a kind, it answers everything alike but for the clock and the host's
processor figures, which leave it of that kind. The number of a handle has no part in an
answer. -/
structure CrawlWorld.Still (world : CrawlWorld σ) (timeout : Duration) (holds : σ → Prop) :
    Prop where
  /-- Opening a namespace. -/
  openNamespace : ∀ owner kind, ∃ x, Answers holds (world.namespaces.openNamespace owner kind) x
  /-- Entering it. -/
  enterNamespace : ∀ owner kind, ∃ x, ∀ id,
    Answers holds (world.namespaces.enterNamespace ⟨id, owner, kind⟩) x
  /-- Closing a handle. -/
  closeNamespace : ∀ owner kind, ∃ x, ∀ id,
    Answers holds (world.namespaces.closeNamespace ⟨id, owner, kind⟩) x
  /-- The working directory, and going back to it. -/
  directory : ∃ x, Answers holds world.namespaces.currentDirectory x ∧
    ∀ path, x = .ok path → ∃ y, Answers holds (world.namespaces.changeDirectory path) y
  /-- What becomes of a child that is tried may differ. -/
  tryChild : ∀ w, holds w → (world.workers.tryChild w).2 = w
  /-- Starting a reader. -/
  startReader : ∃ x, Answers holds world.workers.startReader x
  /-- Starting a worker. -/
  startWorker : ∃ x, Answers holds world.workers.startWorker x
  /-- Whether the end of the time to wait is in range. -/
  uptime : ∃ inRange, ∀ w, holds w → ∃ start, world.workers.uptime w = (start, w) ∧
    (start.add? timeout).isSome = inRange
  /-- The text of a file. -/
  readText : ∀ path, ∃ x, Answers holds (world.source.readText path) x
  /-- The host's free memory. -/
  hostFree : ∃ x, Answers holds world.source.hostFree x
  /-- The probe for the operating system. -/
  identify : ∃ ending, ∀ s, holds s.world → world.identify s = ending
  /-- The probe for the process table. -/
  listProcesses : ∃ ending, ∀ s, holds s.world → world.listProcesses s = ending
  /-- The clock may move. -/
  now : ∀ w, holds w → holds (world.source.now w).2
  /-- Time may pass. -/
  sleep : ∀ d w, holds w → holds (world.source.sleep d w).2
  /-- The window of the host's figures may move. -/
  hostShares : ∀ w, holds w → holds (world.source.hostShares w).2

/-- World, cache and loading are those of another session. -/
structure Session.Unmoved (s₀ s : Session σ) : Prop where
  /-- The world is. -/
  world : s.world = s₀.world
  /-- So is the cache. -/
  samples : s.samples = s₀.samples
  /-- So is the loading. -/
  loading : s.loading = s₀.loading

/-- Two sessions, each of which stays where it is. -/
def Session.Pinned (s₀ t₀ s t : Session σ) : Prop := s₀.Unmoved s ∧ t₀.Unmoved t

/-- Handles of the same namespace. -/
def Handle.Same (h h' : Handle) : Prop := h.owner = h'.owner ∧ h.kind = h'.kind

variable {holds : σ → Prop} {s₀ t₀ s t : Session σ}

theorem Session.Pinned.outlasts : Session.Outlasts (Session.Pinned s₀ t₀) Handle.Same where
  record h _ := ⟨⟨h.1.1, h.1.2, h.1.3⟩, ⟨h.2.1, h.2.2, h.2.3⟩⟩
  recordHandle h _ _ := ⟨⟨h.1.1, h.1.2, h.1.3⟩, ⟨h.2.1, h.2.2, h.2.3⟩⟩
  notice h _ := ⟨⟨h.1.1, h.1.2, h.1.3⟩, ⟨h.2.1, h.2.2, h.2.3⟩⟩
  suppress h := ⟨⟨h.1.1, h.1.2, h.1.3⟩, ⟨h.2.1, h.2.2, h.2.3⟩⟩
  resume h := ⟨⟨h.1.1, h.1.2, h.1.3⟩, ⟨h.2.1, h.2.2, h.2.3⟩⟩
  number h _ _ := ⟨⟨rfl, rfl⟩, ⟨h.1.1, h.1.2, h.1.3⟩, ⟨h.2.1, h.2.2, h.2.3⟩⟩

/-- Questions with one answer are asked alike, wherever the sessions stay. -/
theorem Answers.mirrors {ask other : σ → α × σ} {x : α} (h : Answers holds ask x)
    (h' : Answers holds other x) (hs : holds s₀.world) (ht : holds t₀.world) :
    Action.Mirrors (Session.Pinned s₀ t₀) Eq (Action.ask ask) (Action.ask other) := by
  rintro s t ⟨hstays, hstays'⟩
  have hask : Action.ask ask s = (x, s) := by
    rw [Action.ask, h s.world (hstays.world ▸ hs)]
  have hother : Action.ask other t = (x, t) := by
    rw [Action.ask, h' t.world (hstays'.world ▸ ht)]
  rw [hask, hother]
  exact ⟨rfl, hstays, hstays'⟩

namespace CrawlWorld.Still

variable {world : CrawlWorld σ} {timeout : Duration} (h : world.Still timeout holds)
  (hs : holds s₀.world) (ht : holds t₀.world)
include h hs ht

/-- Namespaces are joined and left alike. -/
theorem namespaces_mirror : world.namespaces.Mirrors (Session.Pinned s₀ t₀) Handle.Same
    (fun path => ∃ y, Answers holds (world.namespaces.changeDirectory path) y)
    world.namespaces where
  outlasts := Session.Pinned.outlasts
  sameNamespace hsame := hsame
  openNamespace owner kind := by
    obtain ⟨x, hx⟩ := h.openNamespace owner kind
    exact hx.mirrors hx hs ht
  enterNamespace := by
    rintro ⟨id, owner, kind⟩ ⟨id', _, _⟩ ⟨rfl, rfl⟩
    obtain ⟨x, hx⟩ := h.enterNamespace owner kind
    exact (hx id).mirrors (hx id') hs ht
  closeNamespace := by
    rintro ⟨id, owner, kind⟩ ⟨id', _, _⟩ ⟨rfl, rfl⟩
    obtain ⟨x, hx⟩ := h.closeNamespace owner kind
    exact (hx id).mirrors (hx id') hs ht
  currentDirectory := by
    obtain ⟨x, hx, hhome⟩ := h.directory
    intro s t hst
    obtain ⟨hsame, hleft⟩ := hx.mirrors hx hs ht s t hst
    refine ⟨⟨hsame, fun path hpath => hhome path ?_⟩, hleft⟩
    have hanswer : (Action.ask world.namespaces.currentDirectory s).1 = x := by
      rw [Action.ask, hx s.world (hst.1.world ▸ hs)]
    exact hanswer.symm.trans hpath
  changeDirectory := by
    rintro path ⟨y, hy⟩
    exact hy.mirrors hy hs ht

/-- So are workers. -/
theorem workers_mirror :
    world.workers.Mirrors (Session.Pinned s₀ t₀) timeout world.workers where
  startReader := by
    obtain ⟨x, hx⟩ := h.startReader
    exact hx.mirrors hx hs ht
  startWorker := by
    obtain ⟨x, hx⟩ := h.startWorker
    exact hx.mirrors hx hs ht
  uptime := by
    obtain ⟨inRange, hclock⟩ := h.uptime
    rintro s t ⟨hstays, hstays'⟩
    obtain ⟨start, hstart, hend⟩ := hclock s.world (hstays.world ▸ hs)
    obtain ⟨start', hstart', hend'⟩ := hclock t.world (hstays'.world ▸ ht)
    have hask : Action.ask world.workers.uptime s = (start, s) := by rw [Action.ask, hstart]
    have hask' : Action.ask world.workers.uptime t = (start', t) := by rw [Action.ask, hstart']
    rw [hask, hask']
    exact ⟨hend.trans hend'.symm, hstays, hstays'⟩

end CrawlWorld.Still

/-- A call that leaves world and cache as they are. What it comes to depends on the preload hooks
at most: it is the same in all sessions that are as far with them, and where it returns it
returns the same once they have run. -/
structure Call.Idle (holds : σ → Prop) (a : Call σ α) : Prop where
  /-- World and cache stay as they are. -/
  still : ∀ s, holds s.world → (a s).2.world = s.world ∧ (a s).2.samples = s.samples
  /-- Sessions that are as far with the hooks are the same to it. -/
  same : ∀ s t, holds s.world → holds t.world → s.loading = t.loading →
    (a s).1 = (a t).1 ∧ (a s).2.loading = (a t).2.loading
  /-- Hooks are run to their end or not at all, and a call that returned does so again behind
  them. -/
  again : ∀ s x, holds s.world → (a s).1 = .ok x →
    ((a s).2.loading = s.loading ∨ (a s).2.loading = .loaded) ∧
      ∀ t, holds t.world → t.loading = .loaded → (a t).1 = .ok x ∧ (a t).2.loading = .loaded

namespace Call.Idle

/-- A call that mirrors itself wherever sessions stay. -/
theorem of_mirrors {a : Call σ α} (h : ∀ s₀ t₀ : Session σ, holds s₀.world → holds t₀.world →
    Call.Mirrors (Session.Pinned s₀ t₀) a a) : Idle holds a := by
  have hboth (s t : Session σ) (hs : holds s.world) (ht : holds t.world) :
      (a s).1 = (a t).1 ∧ s.Unmoved (a s).2 ∧ t.Unmoved (a t).2 :=
    h s t hs ht s t ⟨⟨rfl, rfl, rfl⟩, ⟨rfl, rfl, rfl⟩⟩
  refine ⟨fun s hs => ?_, fun s t hs ht hload => ?_, fun s x hs hx => ?_⟩
  · obtain ⟨_, hstays, _⟩ := hboth s s hs hs
    exact ⟨hstays.world, hstays.samples⟩
  · obtain ⟨hends, hstays, hstays'⟩ := hboth s t hs ht
    exact ⟨hends, hstays.loading.trans (hload.trans hstays'.loading.symm)⟩
  · refine ⟨.inl (hboth s s hs hs).2.1.loading, fun t ht hload => ?_⟩
    obtain ⟨hends, _, hstays⟩ := hboth s t hs ht
    exact ⟨hends.symm.trans hx, hstays.loading.trans hload⟩

theorem pure (x : α) : Idle holds (pure x : Call σ α) := of_mirrors fun _ _ _ _ => .pure x

/-- Calls one after the other. -/
theorem bind {a : Call σ α} {f : α → Call σ β} (h : Idle holds a) (hthen : ∀ x, Idle holds (f x)) :
    Idle holds (a >>= f) := by
  have hworld {s : Session σ} (hs : holds s.world) : holds (a s).2.world := (h.still s hs).1 ▸ hs
  refine ⟨fun s hs => ?_, fun s t hs ht hload => ?_, fun s y hs hy => ?_⟩
  · obtain ⟨hsame, hkept⟩ := h.still s hs
    rw [bind_apply]
    cases hfirst : (a s).1 with
    | ok x =>
      obtain ⟨hsame', hkept'⟩ := (hthen x).still (a s).2 (hworld hs)
      exact ⟨hsame'.trans hsame, hkept'.trans hkept⟩
    | error halt => exact ⟨hsame, hkept⟩
  · obtain ⟨hends, hload'⟩ := h.same s t hs ht hload
    rw [bind_apply, bind_apply, ← hends]
    cases (a s).1 with
    | ok x => exact (hthen x).same _ _ (hworld hs) (hworld ht) hload'
    | error halt => exact ⟨rfl, hload'⟩
  · rw [bind_apply] at hy ⊢
    cases hfirst : (a s).1 with
    | error halt =>
      rw [hfirst] at hy
      cases hy
    | ok x =>
      rw [hfirst] at hy
      obtain ⟨hload, hagain⟩ := h.again s x hs hfirst
      obtain ⟨hload', hagain'⟩ := (hthen x).again (a s).2 y (hworld hs) hy
      refine ⟨?_, fun t ht htload => ?_⟩
      · rcases hload' with hload' | hload'
        · exact hload.imp hload'.trans hload'.trans
        · exact .inr hload'
      · obtain ⟨hends, htload'⟩ := hagain t ht htload
        rw [bind_apply, hends]
        exact hagain' _ (hworld ht) htload'

end Call.Idle

/-- Loading is done once. What becomes of the child that is tried has no effect but a notice. -/
theorem ensureLoaded_idle (hooks : List Hook) {child : σ → ChildEnding × σ}
    (hchild : ∀ w, holds w → (child w).2 = w) :
    Call.Idle holds (Preloader.ensureLoaded hooks child) := by
  have hbehind {s : Session σ} (hs : holds s.world) :
      (Preloader.afterHooks hooks child s).world = s.world ∧
        (Preloader.afterHooks hooks child s).samples = s.samples ∧
        (Preloader.afterHooks hooks child s).loading =
          if Preloader.outcome hooks = .ok () then .loaded else .poisoned := by
    rw [Preloader.afterHooks]
    cases Preloader.outcome hooks with
    | ok => exact ⟨hchild _ hs, rfl, rfl⟩
    | error => exact ⟨rfl, rfl, rfl⟩
  refine ⟨fun s hs => ?_, fun s t hs ht hload => ?_, fun s x hs hx => ?_⟩
  · rw [Preloader.ensureLoaded_apply]
    cases s.loading with
    | loaded => exact ⟨rfl, rfl⟩
    | poisoned => exact ⟨rfl, rfl⟩
    | fresh => exact ⟨(hbehind hs).1, (hbehind hs).2.1⟩
  · rw [Preloader.ensureLoaded_apply, Preloader.ensureLoaded_apply, ← hload]
    cases hfound : s.loading with
    | loaded => exact ⟨rfl, hload⟩
    | poisoned => exact ⟨rfl, hload⟩
    | fresh => exact ⟨rfl, (hbehind hs).2.2.trans (hbehind ht).2.2.symm⟩
  · refine ⟨?_, fun t _ hloaded => ?_⟩
    · rw [Preloader.ensureLoaded_apply] at hx ⊢
      cases hfound : s.loading with
      | loaded => exact .inl hfound
      | poisoned =>
        rw [hfound] at hx
        cases hx
      | fresh =>
        rw [hfound] at hx
        have hok : Preloader.outcome hooks = .ok () := hx
        exact .inr ((hbehind hs).2.2.trans (if_pos hok))
    · rw [Preloader.ensureLoaded_apply, hloaded]
      exact ⟨rfl, hloaded⟩

namespace Crawler

variable {world : CrawlWorld σ} {crawler : Crawler} {target : Target}

/-- An isolated call whose probe comes to the same in all sessions. -/
private theorem run_idle (h : world.Still crawler.executor.timeout holds) (pid : Int32)
    (kinds : List NamespaceKind) (toJson : α → Option Json) (decoder : Json.Decoder α)
    {ending : Session σ → ProbeEnding α} (hending : ∃ x, ∀ s, holds s.world → ending s = x) :
    Call.Idle holds (crawler.executor.run world.namespaces world.workers pid kinds
      (.of toJson decoder ending)) := by
  obtain ⟨x, hx⟩ := hending
  have hconduct {s : Session σ} (hs : holds s.world) : (Probe.of toJson decoder ending).conduct s =
      .ofProbe (fun value => value) (x.encoded toJson) := by
    simp only [Probe.of, hx s hs]
  rw [Executor.run_eq]
  refine (ensureLoaded_idle _ h.tryChild).bind fun _ => .of_mirrors fun s₀ t₀ hs ht => ?_
  refine Executor.runLoaded_mirrors (h.namespaces_mirror hs ht) crawler.executor
    (h.workers_mirror hs ht) pid kinds rfl fun {s t} hst => ?_
  rw [hconduct (hst.1.world ▸ hs), hconduct (hst.2.world ▸ ht)]

/-- Collecting anything but the use of the processor leaves a world that stands still alone. -/
theorem collect_idle (h : world.Still crawler.executor.timeout holds) {feature : Feature}
    (hfeature : feature ≠ .cpu) : Call.Idle holds (crawler.collect world target feature) := by
  cases feature with
  | cpu => exact absurd rfl hfeature
  | os => exact Call.Idle.bind (run_idle h _ _ _ _ h.identify) fun _ => .pure _
  | process =>
    obtain ⟨ending, hending⟩ := h.listProcesses
    exact Call.Idle.bind (run_idle h _ _ _ _ ⟨ending.collected, fun s hs => by rw [hending s hs]⟩)
      fun _ => .pure _
  | memory =>
    refine Call.Idle.bind (.of_mirrors fun s₀ t₀ hs ht =>
      Sampler.memory_mirrors (fun path => ?_) ?_) fun _ => .pure _
    · obtain ⟨x, hx⟩ := h.readText path
      exact hx.mirrors hx hs ht
    · obtain ⟨x, hx⟩ := h.hostFree
      exact hx.mirrors hx hs ht

/-- What an attempt makes of what was collected. -/
private def tell (target : Target) (feature : Feature) :
    Except CrawlError Json → Call σ FeatureOutcome
  | .ok value => return .ok value
  | .error cause => do
    Call.perform (Action.notice (.featureFailed target.containerId feature cause))
    return .failed cause.message

private theorem attempt_eq (world : CrawlWorld σ) (crawler : Crawler) (target : Target)
    (feature : Feature) : crawler.attempt world target feature =
      (crawler.collect world target feature >>= tell target feature) := rfl

private theorem tell_mirrors {R : Session σ → Session σ → Prop} {H : Handle → Handle → Prop}
    (hR : Session.Outlasts R H) (target : Target) (feature : Feature)
    (result : Except CrawlError Json) :
    Call.Mirrors R (tell target feature result) (tell target feature result) := by
  cases result with
  | ok value => exact .pure _
  | error cause => exact .performBindEq (.notice hR _) fun _ => .pure _

/-- An attempt at anything but the use of the processor. -/
theorem attempt_idle (h : world.Still crawler.executor.timeout holds) {feature : Feature}
    (hfeature : feature ≠ .cpu) : Call.Idle holds (crawler.attempt world target feature) := by
  rw [attempt_eq]
  exact (collect_idle h hfeature).bind fun result =>
    .of_mirrors fun _ _ _ _ => tell_mirrors Session.Pinned.outlasts target feature result

end Crawler

/-- Two sessions in one world of a kind that have one cache and are as far with the hooks. -/
structure Session.Alike (holds : σ → Prop) (s t : Session σ) : Prop where
  /-- The world is the same. -/
  world : s.world = t.world
  /-- So is the cache. -/
  samples : s.samples = t.samples
  /-- So is the loading. -/
  loading : s.loading = t.loading
  /-- The world is of the kind. -/
  holds : holds s.world

theorem Session.Alike.trans {u : Session σ} (h : s.Alike holds t) (h' : t.Alike holds u) :
    s.Alike holds u :=
  ⟨h.world.trans h'.world, h.samples.trans h'.samples, h.loading.trans h'.loading, h.holds⟩

/-- Two sessions that are alike, with hooks that have come so far. -/
private def Session.AlikeAt (holds : σ → Prop) (loading : Loading) (s t : Session σ) : Prop :=
  s.Alike holds t ∧ s.loading = loading

private theorem Session.AlikeAt.outlasts (loading : Loading) :
    Session.Outlasts (Session.AlikeAt holds loading) Handle.Same where
  record h _ := ⟨⟨h.1.1, h.1.2, h.1.3, h.1.4⟩, h.2⟩
  recordHandle h _ _ := ⟨⟨h.1.1, h.1.2, h.1.3, h.1.4⟩, h.2⟩
  notice h _ := ⟨⟨h.1.1, h.1.2, h.1.3, h.1.4⟩, h.2⟩
  suppress h := ⟨⟨h.1.1, h.1.2, h.1.3, h.1.4⟩, h.2⟩
  resume h := ⟨⟨h.1.1, h.1.2, h.1.3, h.1.4⟩, h.2⟩
  number h _ _ := ⟨⟨rfl, rfl⟩, ⟨h.1.1, h.1.2, h.1.3, h.1.4⟩, h.2⟩

/-- A question to one world that keeps it of its kind. -/
private theorem ask_mirrors {loading : Loading} {ask : σ → α × σ}
    (hkeep : ∀ w, holds w → holds (ask w).2) :
    Action.Mirrors (Session.AlikeAt holds loading) Eq (Action.ask ask) (Action.ask ask) := by
  rintro s t ⟨⟨hworld, hsamples, hload, hs⟩, hat⟩
  refine ⟨by rw [Action.ask, Action.ask, hworld], ⟨?_, hsamples, hload, hkeep _ hs⟩, hat⟩
  exact congrArg (fun w => (ask w).2) hworld

namespace Crawler

variable {world : CrawlWorld σ} {crawler : Crawler} {target : Target}

/-- An attempt at the use of the processor depends on world and cache alone. -/
private theorem attempt_cpu_mirrors (h : world.Still crawler.executor.timeout holds)
    (loading : Loading) : Call.Mirrors (Session.AlikeAt holds loading)
      (crawler.attempt world target .cpu) (crawler.attempt world target .cpu) := by
  have hsource : world.source.Mirrors (Session.AlikeAt holds loading) world.source :=
    { readText := fun path => ask_mirrors fun w hw => by
        obtain ⟨x, hx⟩ := h.readText path
        rw [hx w hw]
        exact hw
      now := ask_mirrors h.now
      sleep := fun d => ask_mirrors (h.sleep d)
      hostShares := ask_mirrors h.hostShares
      notice := .notice (Session.AlikeAt.outlasts loading) }
  rw [attempt_eq]
  refine Call.Mirrors.bind (Call.Mirrors.bind (Sampler.cpu_mirrors hsource ?_ ?_)
    fun _ => .pure _) fun result => tell_mirrors (Session.AlikeAt.outlasts loading) _ _ result
  · rintro s t ⟨hst, _⟩
    rw [hst.samples]
  · rintro s t ⟨⟨hworld, hsamples, hload, hs⟩, hat⟩ window
    exact ⟨⟨hworld, congrArg (Pairs.insert _ _) hsamples, hload, hs⟩, hat⟩

/-- Attempts in sessions that are alike come to the same and leave sessions that are alike. One
that returned has run the hooks to their end or not at all. -/
theorem attempt_alike (h : world.Still crawler.executor.timeout holds) (feature : Feature)
    (hst : s.Alike holds t) :
    (crawler.attempt world target feature s).1 = (crawler.attempt world target feature t).1 ∧
      (crawler.attempt world target feature s).2.Alike holds
        (crawler.attempt world target feature t).2 ∧
      ∀ outcome, (crawler.attempt world target feature s).1 = .ok outcome →
        (crawler.attempt world target feature s).2.loading = s.loading ∨
          (crawler.attempt world target feature s).2.loading = .loaded := by
  have ht : holds t.world := hst.world ▸ hst.holds
  by_cases hfeature : feature = .cpu
  · subst hfeature
    obtain ⟨hends, hleft, hload⟩ := attempt_cpu_mirrors h s.loading s t ⟨hst, rfl⟩
    exact ⟨hends, hleft, fun _ _ => .inl hload⟩
  · have hidle : Call.Idle holds (crawler.attempt world target feature) := attempt_idle h hfeature
    obtain ⟨hends, hload⟩ := hidle.same s t hst.holds ht hst.loading
    obtain ⟨hworld, hsamples⟩ := hidle.still s hst.holds
    obtain ⟨hworld', hsamples'⟩ := hidle.still t ht
    refine ⟨hends, ⟨?_, ?_, hload, hworld ▸ hst.holds⟩,
      fun outcome houtcome => (hidle.again s outcome hst.holds houtcome).1⟩
    · rw [hworld, hworld', hst.world]
    · rw [hsamples, hsamples', hst.samples]

end Crawler

end Periscope
