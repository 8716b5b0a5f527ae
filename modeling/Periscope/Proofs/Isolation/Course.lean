import Periscope.Isolation.Executor
import Periscope.Proofs.Isolation.Hooks
import Periscope.Proofs.Namespace.Course

/-!
# The course of an isolated call

An isolated call runs the preload hooks, starts a reader, joins the target, starts a worker,
waits for it and comes back. The theorems here say at which points it may end, which
entries it has added by then, and that the result of a worker that was started depends only
on what the caller sees of it.
-/

namespace Periscope

variable {σ α : Type} {s s₁ s' : Session σ}

/-- All entries are about hooks and readers, or tell the operator something. -/
def Preparation (trace : List Entry) : Prop :=
  ∀ entry ∈ trace, (∃ name, entry = .hookRan name) ∨ entry.topic = .notice ∨ entry = .readerStarted

/-- Preparing moves no thread and opens no scope. -/
theorem Preparation.concerns {trace : List Entry} (h : Preparation trace) :
    Concerns trace [.work, .notice] := by
  intro entry hentry
  rcases h entry hentry with ⟨name, rfl⟩ | hnotice | rfl
  · simp [Entry.topic]
  · simp [hnotice]
  · simp [Entry.topic]

/-- To tell the operator something is to prepare. -/
theorem Concerns.preparation {trace : List Entry} (h : Concerns trace [.notice]) :
    Preparation trace :=
  fun entry hentry => .inr (.inl (List.mem_singleton.mp (h entry hentry)))

namespace Preloader

variable {hooks : List Hook} {child : σ → ChildEnding × σ}

theorem startedTrace_preparation (hooks : List Hook) : Preparation (startedTrace hooks) := by
  intro entry hentry
  obtain ⟨hook, _, rfl⟩ := List.mem_map.mp hentry
  exact .inl ⟨_, rfl⟩

theorem childTrace_concerns (child : σ → ChildEnding × σ) (s : Session σ) :
    Concerns (childTrace child s) [.notice] := by
  intro entry hentry
  obtain ⟨n, _, rfl⟩ := List.mem_map.mp hentry
  exact List.mem_singleton_self _

/-- Behind the hooks no handle is held that was not held before. -/
theorem afterHooks_gains (hooks : List Hook) (child : σ → ChildEnding × σ) (s : Session σ) :
    ∃ trace, Preparation trace ∧ ∀ held, s.Gains held trace (afterHooks hooks child s) held := by
  have hstarted (held : Finset Handle) :
      (s.ledger held).replay (startedTrace hooks) = some (s.ledger held) := by
    refine Ledger.replay_of_fits fun entry hentry => ?_
    obtain ⟨hook, _, rfl⟩ := List.mem_map.mp hentry
    rfl
  have htold (held : Finset Handle) :
      (s.ledger held).replay (childTrace child s) = some (s.ledger held) := by
    refine Ledger.replay_of_fits fun entry hentry => ?_
    obtain ⟨n, _, rfl⟩ := List.mem_map.mp hentry
    exact if_pos rfl
  rw [afterHooks]
  cases outcome hooks with
  | ok =>
    refine ⟨startedTrace hooks ++ childTrace child s, ?_, fun held => ⟨rfl, ?_⟩⟩
    · exact List.forall_mem_append.mpr ⟨startedTrace_preparation hooks,
        (childTrace_concerns child s).preparation⟩
    · rw [Ledger.replay_append, hstarted]
      exact htold held
  | error => exact ⟨startedTrace hooks, startedTrace_preparation hooks, fun held =>
      ⟨rfl, hstarted held⟩⟩

/-- The hooks are through unless one stops or one has stopped before. -/
theorem ensureLoaded_course {r : Except Halt Unit} (h : ensureLoaded hooks child s = (r, s')) :
    ∃ trace, Preparation trace ∧ (∀ held, s.Gains held trace s' held) ∧
      (r = .ok () ∨ ∃ cause, r = .error (.panicked cause) ∧
        (s.loading = .poisoned ∨ ∃ hook ∈ hooks, hook.panics = true)) := by
  rw [ensureLoaded_apply] at h
  cases hloading : s.loading with
  | loaded =>
    rw [hloading] at h
    obtain ⟨rfl, rfl⟩ := Prod.mk.inj h
    exact ⟨[], by simp [Preparation], .refl _, .inl rfl⟩
  | poisoned =>
    rw [hloading] at h
    obtain ⟨rfl, rfl⟩ := Prod.mk.inj h
    exact ⟨[], by simp [Preparation], .refl _, .inr ⟨_, rfl, .inl rfl⟩⟩
  | fresh =>
    rw [hloading] at h
    obtain ⟨rfl, rfl⟩ := Prod.mk.inj h
    obtain ⟨trace, htrace, hgains⟩ := afterHooks_gains hooks child s
    refine ⟨trace, htrace, hgains, ?_⟩
    rcases outcome_cases hooks with ⟨hok, _⟩ | ⟨hook, hhook, hpanics, houtcome⟩
    · exact .inl hok
    · exact .inr ⟨_, houtcome, .inr ⟨hook, hhook, hpanics⟩⟩

end Preloader

/-- What a call comes to, given what the caller sees of its worker. -/
def Conduct.verdict (timeout : Duration) (pid : Int32) (decoder : Json.Decoder α)
    (conduct : Conduct) : Except CrawlError α :=
  match ((Receiver.start decoder conduct.stream).wait true).1 with
  | .reply reply => reply.mapError .probe
  | .broken cause =>
    .error (.workerCrashed pid (cause.message ++ "; worker status " ++
      (conduct.exit.getD .killedByCaller).text))
  | .timedOut => .error (.isolationTimeout pid timeout)

/-- The caller hears of a worker in time, by a reply or because the pipe breaks. -/
def Conduct.Heard (decoder : Json.Decoder α) (conduct : Conduct) : Prop :=
  ((Receiver.start decoder conduct.stream).wait true).1 ≠ .timedOut

/-- The caller hears of a worker that does not end. -/
def Conduct.Stays (decoder : Json.Decoder α) (conduct : Conduct) : Prop :=
  conduct.Heard decoder ∧ conduct.exit = none

/-- What the operator is told while the caller waits for a worker: that it is to be killed, just
if it stays. -/
inductive Conduct.Warned (decoder : Json.Decoder α) (conduct : Conduct) : List Entry → Prop where
  /-- Nothing. -/
  | silent (hends : ¬conduct.Stays decoder) : Warned decoder conduct []
  /-- The worker is killed. -/
  | stuck (hstays : conduct.Stays decoder) (shown : Nat) :
      Warned decoder conduct [.noticed .workerStuck shown]

theorem Conduct.Warned.concerns {decoder : Json.Decoder α} {conduct : Conduct}
    {waiting : List Entry} (h : conduct.Warned decoder waiting) : Concerns waiting [.notice] := by
  cases h with
  | silent => exact .nil _
  | stuck => simp [Concerns, Entry.topic]

/-- The way home cannot be lost by waiting for a worker. -/
theorem Conduct.verdict_ne_restore {timeout : Duration} {pid : Int32} {decoder : Json.Decoder α}
    {conduct : Conduct} (kind : NamespaceKind) (cause : IoError) :
    conduct.verdict timeout pid decoder ≠ .error (.namespaceRestore kind cause) := by
  unfold Conduct.verdict
  split
  · next reply _ => cases reply <;> simp [Except.mapError]
  · simp
  · simp

namespace Executor

variable {workers : WorkerSystem σ} {timeout : Duration} {pid : Int32}

/-- Some instant at which the waiting would end cannot be shown by any clock. -/
def Overruns (workers : WorkerSystem σ) (timeout : Duration) : Prop :=
  ∃ w, (workers.uptime w).1.add? timeout = none

/-- The caller hears of a worker, and no clock can show the end of the time that it then has to
end. -/
def Overrun (workers : WorkerSystem σ) (timeout : Duration) (probe : Probe σ α)
    (inherited : Session σ) : Prop :=
  (probe.conduct inherited).Heard probe.decoder ∧
    (workers.uptime inherited.world).1.add? timeout = none

/-- Then there is an instant at which the waiting cannot end. -/
theorem Overrun.overruns {probe : Probe σ α} (h : Overrun workers timeout probe s) :
    Overruns workers timeout := ⟨s.world, h.2⟩

/-- Joining a worker makes sure that it is gone, unless no clock can show the end of the
time. -/
private theorem join_course {decoder : Json.Decoder α} {conduct : Conduct}
    {r : Except Halt ExitStatus}
    (h : join workers timeout conduct s = (r, s')) (hheard : conduct.Heard decoder) :
    (r = .error (.panicked .instantOverflow) ∧ (workers.uptime s.world).1.add? timeout = none ∧
        ∀ held, s.Gains held [] s' held) ∨
      (r = .ok (conduct.exit.getD .killedByCaller) ∧
        (workers.uptime s.world).1.add? timeout ≠ none ∧
        ∃ waiting, conduct.Warned decoder waiting ∧
          ∀ held, s.Gains held (waiting ++ [.workerReaped]) s' held) := by
  obtain ⟨start, s₁, hclock, h⟩ := Call.of_perform h
  have hasked (held : Finset Handle) := Action.ask_gains hclock held
  obtain ⟨rfl, _⟩ := Action.of_ask hclock
  cases hend : (workers.uptime s.world).1.add? timeout with
  | none =>
    simp only [hend] at h
    obtain ⟨rfl, rfl⟩ := Call.of_halt h
    exact .inl ⟨rfl, rfl, hasked⟩
  | some _ =>
    simp only [hend] at h
    refine .inr ?_
    cases hexit : conduct.exit with
    | some status =>
      simp only [hexit, pure_bind] at h
      obtain ⟨_, s₂, hreaped, h⟩ := Call.of_perform h
      obtain ⟨rfl, rfl⟩ := Call.of_pure h
      have hends : ¬conduct.Stays decoder := fun hstays => by simp [hstays.2] at hexit
      exact ⟨rfl, by simp, [], .silent hends, fun held =>
        (hasked held).trans (Action.record_gains hreaped held rfl)⟩
    | none =>
      simp only [hexit, pure_bind] at h
      obtain ⟨_, s₂, hstuck, h⟩ := Call.of_perform h
      obtain ⟨_, s₃, hreaped, h⟩ := Call.of_perform h
      obtain ⟨rfl, rfl⟩ := Call.of_pure h
      refine ⟨rfl, by simp, _, .stuck ⟨hheard, hexit⟩ s₁.depth, fun held => ?_⟩
      exact (hasked held).trans ((Action.notice_gains hstuck held).trans
        (Action.record_gains hreaped held rfl))

/-- Waiting for a worker comes to its verdict, and the worker is gone. -/
private theorem await_course {decoder : Json.Decoder α} {conduct : Conduct}
    {r : Except Halt (Except CrawlError α)}
    (h : await workers timeout pid decoder conduct s = (r, s')) :
    (r = .error (.panicked .instantOverflow) ∧
        (conduct.Heard decoder ∧ (workers.uptime s.world).1.add? timeout = none) ∧
        ∀ held, s.Gains held [] s' held) ∨
      (r = .ok (conduct.verdict timeout pid decoder) ∧
        ¬ (conduct.Heard decoder ∧ (workers.uptime s.world).1.add? timeout = none) ∧
        ∃ waiting, conduct.Warned decoder waiting ∧
          ∀ held, s.Gains held (waiting ++ [.workerReaped]) s' held) := by
  unfold await at h
  unfold Conduct.verdict
  cases hreceived : ((Receiver.start decoder conduct.stream).wait true).1 with
  | reply reply =>
    have hheard : conduct.Heard decoder := by simp [Conduct.Heard, hreceived]
    rw [hreceived] at h
    rcases Call.of_bind h with ⟨status, s₁, hjoin, h⟩ | ⟨cause, hjoin, rfl⟩
    · obtain ⟨rfl, rfl⟩ := Call.of_pure h
      refine (join_course hjoin hheard).imp (by simp) fun ⟨_, hshown, hjoined⟩ =>
        ⟨rfl, fun hover => hshown hover.2, hjoined⟩
    · exact (join_course hjoin hheard).imp (by simp [hheard]) (by simp)
  | broken cause =>
    have hheard : conduct.Heard decoder := by simp [Conduct.Heard, hreceived]
    rw [hreceived] at h
    rcases Call.of_bind h with ⟨status, s₁, hjoin, h⟩ | ⟨cause, hjoin, rfl⟩
    · obtain ⟨rfl, rfl⟩ := Call.of_pure h
      refine (join_course hjoin hheard).imp (by simp) fun ⟨hstatus, hshown, hjoined⟩ =>
        ⟨?_, fun hover => hshown hover.2, hjoined⟩
      rw [Except.ok.inj hstatus]
    · exact (join_course hjoin hheard).imp (by simp [hheard]) (by simp)
  | timedOut =>
    have hunheard : ¬conduct.Heard decoder := by simp [Conduct.Heard, hreceived]
    rw [hreceived] at h
    obtain ⟨_, s₁, hreaped, h⟩ := Call.of_perform h
    obtain ⟨rfl, rfl⟩ := Call.of_pure h
    exact .inr ⟨rfl, fun hover => hunheard hover.1, [], .silent fun hstays => hunheard hstays.1,
      fun held => Action.record_gains hreaped held rfl⟩

/-- The session behind the start of a reader. -/
def behindReader (workers : WorkerSystem σ) (s : Session σ) : Session σ :=
  { s with world := (workers.startReader s.world).2 }.record .readerStarted

/-- The session behind the start of a worker, which inherits it. -/
def behindWorker (workers : WorkerSystem σ) (s : Session σ) : Session σ :=
  { s with world := (workers.startWorker s.world).2 }.record .workerStarted

theorem behindReader_gains (workers : WorkerSystem σ) (s : Session σ) (held : Finset Handle) :
    s.Gains held [.readerStarted] (behindReader workers s) held := ⟨rfl, rfl⟩

theorem behindWorker_gains (workers : WorkerSystem σ) (s : Session σ) (held : Finset Handle) :
    s.Gains held [.workerStarted] (behindWorker workers s) held := ⟨rfl, rfl⟩

/-- What starting a worker in a session and waiting for it comes to. -/
inductive WorkCourse (workers : WorkerSystem σ) (timeout : Duration) (pid : Int32)
    (probe : Probe σ α) (joined : Session σ) :
    Except Halt (Except CrawlError α) → List Entry → Prop where
  /-- There is no worker. -/
  | notStarted {cause : IoError} (hrefused : (workers.startWorker joined.world).1 = some cause) :
      WorkCourse workers timeout pid probe joined (.ok (.error (.fork cause))) []
  /-- No clock can show the end of the waiting. -/
  | overrun (hstarted : (workers.startWorker joined.world).1 = none)
      (hover : Overrun workers timeout probe (behindWorker workers joined)) :
      WorkCourse workers timeout pid probe joined (.error (.panicked .instantOverflow))
        [.workerStarted]
  /-- The worker runs the probe in the session that it inherits. -/
  | reaped {waiting : List Entry} (hstarted : (workers.startWorker joined.world).1 = none)
      (hshown : ¬ Overrun workers timeout probe (behindWorker workers joined))
      (hwarned : (probe.conduct (behindWorker workers joined)).Warned probe.decoder waiting) :
      WorkCourse workers timeout pid probe joined
        (.ok ((probe.conduct (behindWorker workers joined)).verdict timeout pid probe.decoder))
        (.workerStarted :: (waiting ++ [.workerReaped]))

/-- Working takes one of three courses. -/
private theorem work_course {probe : Probe σ α} {r : Except Halt (Except CrawlError α)}
    (h : work workers timeout pid probe s = (r, s')) :
    ∃ trace, WorkCourse workers timeout pid probe s r trace ∧
      ∀ held, s.Gains held trace s' held := by
  obtain ⟨answer, s₁, hask, h⟩ := Call.of_perform h
  have hasked (held : Finset Handle) := Action.ask_gains hask held
  obtain ⟨hanswer, rfl⟩ := Action.of_ask hask
  cases answer with
  | some cause =>
    obtain ⟨rfl, rfl⟩ := Call.of_pure h
    exact ⟨[], .notStarted hanswer.symm, hasked⟩
  | none =>
    have hgains := behindWorker_gains workers s
    have hwait : await workers timeout pid probe.decoder
        (probe.conduct (behindWorker workers s)) (behindWorker workers s) = (r, s') := h
    rcases await_course hwait with ⟨rfl, hover, hgains'⟩ | ⟨rfl, hshown, waiting, hwarned, hgains'⟩
    · exact ⟨_, .overrun hanswer.symm hover, fun held => (hgains held).trans (hgains' held)⟩
    · exact ⟨_, .reaped hanswer.symm hshown hwarned, fun held =>
        (hgains held).trans (hgains' held)⟩

variable {namespaces : NamespaceSystem σ} {c : ProcessContext}

/-- What becomes of the work when the target is left: it is the outcome unless the mount
namespace is lost. -/
private theorem finish_course {outcome : Except CrawlError α}
    {r : Except Halt (Except CrawlError α)}
    (h : finish namespaces c outcome s = (r, s')) (hc : c.Attached) :
    ∃ lost attempts homeward tail farewell,
      ProcessContext.Departure namespaces c lost attempts homeward tail ∧
      Concerns farewell [.notice] ∧ r = (if lost.isSome then .error .aborted else .ok outcome) ∧
      ∀ held, c.handles.Nodup → (∀ handle ∈ c.handles, handle ∈ held) →
        s.Gains held (ProcessContext.departureTrace attempts homeward tail ++ farewell) s'
          (held \ c.handles.toFinset) := by
  obtain ⟨⟨lost, c'⟩, s₁, hdetach, h⟩ := Call.of_perform h
  obtain ⟨attempts, homeward, tail, hdeparture, _, hgains⟩ :=
    ProcessContext.detach_course hdetach hc.state_eq
  cases lost with
  | some cause =>
    obtain ⟨_, s₂, hnotice, h⟩ := Call.of_perform h
    obtain ⟨rfl, rfl⟩ := Call.of_halt h
    refine ⟨_, attempts, homeward, tail, [.noticed (.hostLost c.pid cause) s₁.depth], hdeparture,
      by simp [Concerns, Entry.topic], by simp, fun held hnodup hheld => ?_⟩
    exact (hgains held hnodup hheld).trans (Action.notice_gains hnotice _)
  | none =>
    cases outcome with
    | ok value =>
      obtain ⟨rfl, rfl⟩ := Call.of_pure h
      refine ⟨_, attempts, homeward, tail, [], hdeparture, .nil _, by simp, fun held => ?_⟩
      rw [List.append_nil]
      exact hgains held
    | error cause =>
      obtain ⟨_, s₂, hnotice, h⟩ := Call.of_perform h
      obtain ⟨rfl, rfl⟩ := Call.of_pure h
      refine ⟨_, attempts, homeward, tail, [.noticed (.callFailed c.pid cause) s₁.depth],
        hdeparture, by simp [Concerns, Entry.topic], by simp, fun held hnodup hheld => ?_⟩
      exact (hgains held hnodup hheld).trans (Action.notice_gains hnotice _)

/-- What becomes of a stop on the way: it goes on unless the mount namespace is lost. -/
private theorem unwind_course {cause : Halt} {r : Except Halt (Except CrawlError α)}
    (h : (do c.drop namespaces; throw cause : Call σ (Except CrawlError α)) s = (r, s'))
    (hc : c.Attached) :
    ∃ lost attempts homeward tail farewell,
      ProcessContext.Departure namespaces c lost attempts homeward tail ∧
      Concerns farewell [.notice] ∧ r = (if lost.isSome then .error .aborted else .error cause) ∧
      ∀ held, c.handles.Nodup → (∀ handle ∈ c.handles, handle ∈ held) →
        s.Gains held (ProcessContext.departureTrace attempts homeward tail ++ farewell) s'
          (held \ c.handles.toFinset) := by
  generalize hdetach : c.detach namespaces s = out
  obtain ⟨⟨lost, c'⟩, s₁⟩ := out
  obtain ⟨attempts, homeward, tail, hdeparture, _, hgains⟩ :=
    ProcessContext.detach_course hdetach hc.state_eq
  rcases ProcessContext.drop_of_attached hc.state_eq hdetach with
    ⟨rfl, hdrop⟩ | ⟨failure, rfl, hdrop⟩
  · rcases Call.of_bind h with ⟨_, s₂, hfirst, h⟩ | ⟨_, hfirst, _⟩
    · obtain ⟨_, rfl⟩ := Prod.mk.inj (hdrop.symm.trans hfirst)
      obtain ⟨rfl, rfl⟩ := Prod.mk.inj h
      refine ⟨_, attempts, homeward, tail, [], hdeparture, .nil _, by simp, fun held => ?_⟩
      rw [List.append_nil]
      exact hgains held
    · cases (Prod.mk.inj (hdrop.symm.trans hfirst)).1
  · rcases Call.of_bind h with ⟨_, s₂, hfirst, _⟩ | ⟨_, hfirst, rfl⟩
    · cases (Prod.mk.inj (hdrop.symm.trans hfirst)).1
    · obtain ⟨hhalt, rfl⟩ := Prod.mk.inj (hdrop.symm.trans hfirst)
      refine ⟨_, attempts, homeward, tail, [.noticed (.hostLost none failure) s₁.depth],
        hdeparture, by simp [Concerns, Entry.topic], ?_, fun held hnodup hheld => ?_⟩
      · rw [← Except.error.inj hhalt]
        rfl
      · exact (hgains held hnodup hheld).trans (Action.notice_gains rfl _)

/-- Whatever the work comes to, the target is left behind it. -/
private theorem leave_course {probe : Probe σ α} {r : Except Halt (Except CrawlError α)}
    (h : (do
      let outcome ← tryCatch (work workers timeout pid probe) fun halt => do
        c.drop namespaces
        throw halt
      finish namespaces c outcome : Call σ (Except CrawlError α)) s = (r, s'))
    (hc : c.Attached) :
    ∃ worked working lost attempts homeward tail farewell,
      WorkCourse workers timeout pid probe s worked working ∧
      ProcessContext.Departure namespaces c lost attempts homeward tail ∧
      Concerns farewell [.notice] ∧ r = (if lost.isSome then .error .aborted else worked) ∧
      ∀ held, c.handles.Nodup → (∀ handle ∈ c.handles, handle ∈ held) →
        s.Gains held (working ++
          (ProcessContext.departureTrace attempts homeward tail ++ farewell)) s'
          (held \ c.handles.toFinset) := by
  rcases Call.of_bind h with ⟨outcome, s₁, hcatch, h⟩ | ⟨halt, hcatch, rfl⟩
  · rcases Call.of_tryCatch hcatch with ⟨_, hwork, hok⟩ | ⟨cause, s₂, _, hunwind⟩
    · obtain rfl := Except.ok.inj hok
      obtain ⟨working, hworked, hgains⟩ := work_course hwork
      obtain ⟨lost, attempts, homeward, tail, farewell, hdeparture, hfarewell, hr, hleft⟩ :=
        finish_course h hc
      exact ⟨_, working, lost, attempts, homeward, tail, farewell, hworked, hdeparture, hfarewell,
        hr, fun held hnodup hheld => (hgains held).trans (hleft held hnodup hheld)⟩
    · obtain ⟨lost, _, _, _, _, _, _, hr, _⟩ := unwind_course hunwind hc
      cases lost <;> simp at hr
  · rcases Call.of_tryCatch hcatch with ⟨_, _, hok⟩ | ⟨cause, s₂, hwork, hunwind⟩
    · cases hok
    · obtain ⟨working, hworked, hgains⟩ := work_course hwork
      obtain ⟨lost, attempts, homeward, tail, farewell, hdeparture, hfarewell, hr, hleft⟩ :=
        unwind_course hunwind hc
      exact ⟨_, working, lost, attempts, homeward, tail, farewell, hworked, hdeparture, hfarewell,
        hr, fun held hnodup hheld => (hgains held).trans (hleft held hnodup hheld)⟩

/-- A call tries to join the target: the hooks are through, there is a reader, and attaching comes
to this. -/
inductive Joining (namespaces : NamespaceSystem σ) (workers : WorkerSystem σ) (hooks : List Hook)
    (pid : Int32) (kinds : List NamespaceKind) (s : Session σ) :
    Option CrawlError → ProcessContext → Session σ → Prop where
  | intro {loaded joined : Session σ} {failure : Option CrawlError} {c : ProcessContext}
      (hload : Preloader.ensureLoaded hooks workers.tryChild s = (.ok (), loaded))
      (hread : (workers.startReader loaded.world).1 = none)
      (hattach : (ProcessContext.new pid kinds).attach namespaces (behindReader workers loaded) =
        ((failure, c), joined)) :
      Joining namespaces workers hooks pid kinds s failure c joined

/-- What an isolated call comes to, with the entries it adds. -/
inductive RunCourse (namespaces : NamespaceSystem σ) (workers : WorkerSystem σ)
    (executor : Executor) (pid : Int32) (kinds : List NamespaceKind) (probe : Probe σ α)
    (s : Session σ) : Except Halt (Except CrawlError α) → List Entry → Prop where
  /-- A preload hook stops, or has stopped before. -/
  | unprepared {cause : Panic} {prepared : List Entry} (hprepared : Preparation prepared)
      (hcause : s.loading = .poisoned ∨ ∃ hook ∈ executor.hooks, hook.panics = true)
      (hload : (Preloader.ensureLoaded executor.hooks workers.tryChild s).1 =
        .error (.panicked cause)) :
      RunCourse namespaces workers executor pid kinds probe s (.error (.panicked cause)) prepared
  /-- There is no reader. -/
  | unread {cause : IoError} {prepared : List Entry} {loaded : Session σ}
      (hprepared : Preparation prepared)
      (hload : Preloader.ensureLoaded executor.hooks workers.tryChild s = (.ok (), loaded))
      (hrefused : (workers.startReader loaded.world).1 = some cause) :
      RunCourse namespaces workers executor pid kinds probe s (.ok (.error (.fork cause))) prepared
  /-- The target cannot be joined. -/
  | unjoined {failure : CrawlError} {home : Option String} {c : ProcessContext}
      {joined : Session σ} {prepared arriving : List Entry} (hprepared : Preparation prepared)
      (harrival : ProcessContext.Arrival namespaces
        { ProcessContext.new pid kinds with homeDirectory := home } (some failure) c arriving)
      (hjoining : Joining namespaces workers executor.hooks pid kinds s (some failure) c joined) :
      RunCourse namespaces workers executor pid kinds probe s (.ok (.error failure))
        (prepared ++ arriving)
  /-- The target is joined and, after the work, left again. -/
  | left {worked : Except Halt (Except CrawlError α)} {home : Option String} {c : ProcessContext}
      {joined : Session σ} {lost : Option CrawlError} {attempts : List Attempt}
      {prepared arriving working homeward tail farewell : List Entry}
      (hprepared : Preparation prepared)
      (harrival : ProcessContext.Arrival namespaces
        { ProcessContext.new pid kinds with homeDirectory := home } none c arriving)
      (hwork : WorkCourse workers executor.timeout pid probe joined worked working)
      (hdeparture : ProcessContext.Departure namespaces c lost attempts homeward tail)
      (hfarewell : Concerns farewell [.notice])
      (hjoining : Joining namespaces workers executor.hooks pid kinds s none c joined)
      (hjournal : joined.journal = s.journal ++ (prepared ++ arriving)) :
      RunCourse namespaces workers executor pid kinds probe s
        (if lost.isSome then .error .aborted else worked)
        (prepared ++ (arriving ++ (working ++
          (ProcessContext.departureTrace attempts homeward tail ++ farewell))))

/-- An isolated call once the hooks have run. -/
def runLoaded (system : NamespaceSystem σ) (workers : WorkerSystem σ) (executor : Executor)
    (pid : Int32) (kinds : List NamespaceKind) (probe : Probe σ α) :
    Call σ (Except CrawlError α) := do
  match ← Call.perform (Action.ask workers.startReader) with
  | some cause => return .error (.fork cause)
  | none =>
    Call.perform (Action.record .readerStarted)
    match ← Call.perform ((ProcessContext.new pid kinds).attach system) with
    | (some failure, _) => return .error failure
    | (none, context) =>
      let outcome ← tryCatch (work workers executor.timeout pid probe) fun halt => do
        context.drop system
        throw halt
      finish system context outcome

theorem run_eq (executor : Executor) (pid : Int32) (kinds : List NamespaceKind)
    (probe : Probe σ α) : run namespaces workers executor pid kinds probe =
      (Preloader.ensureLoaded executor.hooks workers.tryChild >>= fun _ =>
        runLoaded namespaces workers executor pid kinds probe) := rfl

/-- What an isolated call comes to once the hooks have run, with the entries it adds. -/
inductive LoadedCourse (namespaces : NamespaceSystem σ) (workers : WorkerSystem σ)
    (executor : Executor) (pid : Int32) (kinds : List NamespaceKind) (probe : Probe σ α)
    (s : Session σ) : Except Halt (Except CrawlError α) → List Entry → Prop where
  /-- There is no reader. -/
  | unread {cause : IoError} (hrefused : (workers.startReader s.world).1 = some cause) :
      LoadedCourse namespaces workers executor pid kinds probe s (.ok (.error (.fork cause))) []
  /-- The target cannot be joined. -/
  | unjoined {failure : CrawlError} {home : Option String} {c : ProcessContext}
      {joined : Session σ} {arriving : List Entry}
      (harrival : ProcessContext.Arrival namespaces
        { ProcessContext.new pid kinds with homeDirectory := home } (some failure) c arriving)
      (hread : (workers.startReader s.world).1 = none)
      (hattach : (ProcessContext.new pid kinds).attach namespaces (behindReader workers s) =
        ((some failure, c), joined)) :
      LoadedCourse namespaces workers executor pid kinds probe s (.ok (.error failure))
        (.readerStarted :: arriving)
  /-- The target is joined and, after the work, left again. -/
  | left {worked : Except Halt (Except CrawlError α)} {home : Option String} {c : ProcessContext}
      {joined : Session σ} {lost : Option CrawlError} {attempts : List Attempt}
      {arriving working homeward tail farewell : List Entry}
      (harrival : ProcessContext.Arrival namespaces
        { ProcessContext.new pid kinds with homeDirectory := home } none c arriving)
      (hwork : WorkCourse workers executor.timeout pid probe joined worked working)
      (hdeparture : ProcessContext.Departure namespaces c lost attempts homeward tail)
      (hfarewell : Concerns farewell [.notice])
      (hread : (workers.startReader s.world).1 = none)
      (hattach : (ProcessContext.new pid kinds).attach namespaces (behindReader workers s) =
        ((none, c), joined))
      (hjournal : joined.journal = s.journal ++ .readerStarted :: arriving) :
      LoadedCourse namespaces workers executor pid kinds probe s
        (if lost.isSome then .error .aborted else worked)
        (.readerStarted :: (arriving ++ (working ++
          (ProcessContext.departureTrace attempts homeward tail ++ farewell))))

/-- Once the hooks have run there are three courses, and in the end no handle is held. -/
theorem runLoaded_course {executor : Executor} {kinds : List NamespaceKind} {probe : Probe σ α}
    {r : Except Halt (Except CrawlError α)}
    (h : runLoaded namespaces workers executor pid kinds probe s = (r, s')) :
    ∃ trace, LoadedCourse namespaces workers executor pid kinds probe s r trace ∧
      ∀ held, (s.ledger held).Sound → s.Gains held trace s' held := by
  obtain ⟨answer, s₁, hask, h⟩ := Call.of_perform h
  have hasked (held : Finset Handle) := Action.ask_gains hask held
  obtain ⟨hanswer, rfl⟩ := Action.of_ask hask
  cases answer with
  | some cause =>
    obtain ⟨rfl, rfl⟩ := Call.of_pure h
    exact ⟨[], .unread hanswer.symm, fun held _ => hasked held⟩
  | none =>
    obtain ⟨_, s₂, hreader, h⟩ := Call.of_perform h
    obtain ⟨_, rfl⟩ := Prod.mk.inj hreader
    obtain ⟨⟨failure, c⟩, s₃, hattach, h⟩ := Call.of_perform h
    obtain ⟨arriving, harrival, hgains⟩ :=
      ProcessContext.attach_course hattach (ProcessContext.new_fresh pid kinds)
    have hjoin (held : Finset Handle) (hsound : (s.ledger held).Sound) : c.handles.Nodup ∧
        s.Gains held (.readerStarted :: arriving) s₃ (held ∪ c.handles.toFinset) := by
      have hread := behindReader_gains workers s held
      obtain ⟨hnodup, harrived⟩ := hgains held (hread.sound hsound)
      exact ⟨hnodup, hread.trans harrived⟩
    cases failure with
    | some failure =>
      obtain ⟨rfl, rfl⟩ := Call.of_pure h
      refine ⟨_, .unjoined harrival hanswer.symm hattach, fun held hsound => ?_⟩
      simpa [harrival.handles_eq_nil] using (hjoin held hsound).2
    | none =>
      have hfresh := (ProcessContext.new_fresh pid kinds).withHome
        (namespaces.currentDirectory (behindReader workers s).world).1.toOption
      have hc := harrival.attached hfresh
      obtain ⟨worked, working, lost, attempts, homeward, tail, farewell, hworked, hdeparture,
        hfarewell, rfl, hleft⟩ := leave_course h hc
      refine ⟨_, .left harrival hworked hdeparture hfarewell hanswer.symm hattach
        (hjoin ∅ (Session.sound_empty _)).2.journal_eq, fun held hsound => ?_⟩
      obtain ⟨hnodup, hjoined⟩ := hjoin held hsound
      -- The handles that are given back on the way out were opened here.
      have hback : (held ∪ c.handles.toFinset) \ c.handles.toFinset = held :=
        hjoined.union_sdiff_of_opened hsound fun handle hhandle =>
          List.mem_cons_of_mem _ (harrival.opened hfresh handle hhandle)
      have hwhole := hjoined.trans (hleft _ hnodup fun handle hhandle =>
        Finset.mem_union_right _ (List.mem_toFinset.mpr hhandle))
      rwa [hback] at hwhole

/-- Behind the hooks the course of the whole call goes on. -/
private theorem LoadedCourse.behindHooks {executor : Executor} {kinds : List NamespaceKind}
    {probe : Probe σ α} {r : Except Halt (Except CrawlError α)} {hooked trace : List Entry}
    (h : LoadedCourse namespaces workers executor pid kinds probe s₁ r trace)
    (hload : Preloader.ensureLoaded executor.hooks workers.tryChild s = (.ok (), s₁))
    (hhooked : Preparation hooked) (hjournal : s₁.journal = s.journal ++ hooked) :
    RunCourse namespaces workers executor pid kinds probe s r (hooked ++ trace) := by
  have hprepared : Preparation (hooked ++ [.readerStarted]) :=
    List.forall_mem_append.mpr ⟨hhooked, by simp⟩
  cases h with
  | unread hrefused =>
    rw [List.append_nil]
    exact .unread hhooked hload hrefused
  | unjoined harrival hread hattach =>
    rw [List.append_cons]
    exact .unjoined hprepared harrival (.intro hload hread hattach)
  | left harrival hwork hdeparture hfarewell hread hattach hjoined =>
    rw [hjournal, List.append_assoc, List.append_cons hooked] at hjoined
    rw [List.append_cons]
    exact .left hprepared harrival hwork hdeparture hfarewell (.intro hload hread hattach) hjoined

/-- An isolated call takes one of four courses, and in the end it holds no handle. -/
theorem run_course {executor : Executor} {kinds : List NamespaceKind} {probe : Probe σ α}
    {r : Except Halt (Except CrawlError α)}
    (h : run namespaces workers executor pid kinds probe s = (r, s')) :
    ∃ trace, RunCourse namespaces workers executor pid kinds probe s r trace ∧
      ∀ held, (s.ledger held).Sound → s.Gains held trace s' held := by
  rw [run_eq] at h
  rcases Call.of_bind h with ⟨_, s₁, hload, h⟩ | ⟨cause, hload, rfl⟩
  · obtain ⟨hooked, hhooked, hgains, _⟩ := Preloader.ensureLoaded_course hload
    obtain ⟨trace, hcourse, hgains'⟩ := runLoaded_course h
    have hwhole := hcourse.behindHooks hload hhooked (hgains ∅).journal_eq
    refine ⟨hooked ++ trace, hwhole, fun held hsound => ?_⟩
    exact (hgains held).trans (hgains' held ((hgains held).sound hsound))
  · obtain ⟨hooked, hhooked, hgains, hout⟩ := Preloader.ensureLoaded_course hload
    rcases hout with hok | ⟨cause, hr, hcause⟩
    · cases hok
    · obtain rfl := Except.error.inj hr
      exact ⟨hooked, .unprepared hhooked hcause (congrArg Prod.fst hload), fun held _ =>
        hgains held⟩

end Executor

end Periscope
