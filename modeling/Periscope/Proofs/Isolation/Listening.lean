import Periscope.Proofs.Isolation.Mirroring
import Periscope.Proofs.Isolation.Recovery
import Periscope.Proofs.Namespace.Listening

/-!
# Listening to an isolated call

A listener beside the world of an isolated call notes what the system answers about namespaces,
readers and workers. It disturbs neither the call nor the probe, and the journal of the call tells
the same as its notes. So what is proved of the journal is true of the system.
-/

namespace Periscope

variable {σ ν α : Type}

/-- The system with a listener that notes whether readers and workers are started. -/
def WorkerSystem.overheard (workers : WorkerSystem σ) :
    WorkerSystem (σ × List SystemAnswer) where
  tryChild := besideNotes workers.tryChild
  startReader := noted .reader workers.startReader
  startWorker := noted .worker workers.startWorker
  uptime := besideNotes workers.uptime

/-- The probe, to which notes beside the world are nothing. -/
def Probe.overheard (probe : Probe σ α) : Probe (σ × List ν) α :=
  ⟨fun s => probe.conduct (s.inWorld s.world.1), probe.decoder⟩

/-- The listener disturbs nothing. -/
theorem WorkerSystem.overheard_mirrors (workers : WorkerSystem σ) (timeout : Duration) :
    workers.Mirrors Session.Beside timeout workers.overheard where
  startReader := .noted .reader _
  startWorker := .noted .worker _
  uptime := by
    rintro s t rfl
    exact ⟨rfl, rfl⟩

namespace Preloader

variable (hooks : List Hook) (child : σ → ChildEnding × σ)

/-- Whether notes are taken does not matter to the hooks. -/
theorem ensureLoaded_beside : Call.Mirrors (Session.Beside (ν := ν)) (ensureLoaded hooks child)
    (ensureLoaded hooks (besideNotes child)) := by
  rintro s t rfl
  rw [ensureLoaded_apply, ensureLoaded_apply]
  cases hloading : t.loading with
  | loaded => simp [Session.inWorld, hloading, Session.Beside]
  | poisoned => simp [Session.inWorld, hloading, Session.Beside]
  | fresh =>
    simp only [Session.inWorld, hloading, true_and]
    rw [afterHooks, afterHooks]
    cases outcome hooks <;> rfl

theorem tryChild_settles :
    Action.Settles [] (tryChild (besideNotes child) : Action (σ × List SystemAnswer) Unit) := by
  refine (Action.Settles.besideNotes child).bind fun ending => ?_
  cases ending.notice? with
  | none => exact .pure ()
  | some n => exact .notice n

theorem runHooks_settles :
    Call.Settles [] (runHooks hooks : Call (σ × List SystemAnswer) Unit) := by
  induction hooks with
  | nil => exact .pure ()
  | cons hook rest ih =>
    refine .performBind (.record (.hookRan hook.name)) fun _ => ?_
    split
    · exact .halt _
    · exact ih

theorem ensureLoaded_settles : Call.Settles [] (ensureLoaded hooks (besideNotes child) :
    Call (σ × List SystemAnswer) Unit) := by
  have hset (loading : Loading) : Call.Settles []
      (modify fun s => { s with loading } : Call (σ × List SystemAnswer) Unit) :=
    fun _ => .of_silent rfl rfl
  have hget : Call.Settles [] (get : Call (σ × List SystemAnswer) (Session _)) :=
    fun _ => .of_silent rfl rfl
  refine hget.bind fun s => ?_
  cases s.loading with
  | loaded => exact .pure ()
  | poisoned => exact .halt _
  | fresh =>
    exact (hset .poisoned).bind fun _ => (runHooks_settles hooks).bind fun _ =>
      .performBind (tryChild_settles child) fun _ => hset .loaded

end Preloader

namespace Executor

variable (namespaces : NamespaceSystem σ) (workers : WorkerSystem σ)

theorem join_settles (timeout : Duration) (conduct : Conduct) :
    Call.Settles [] (join workers.overheard timeout conduct) := by
  have hreaped (status : ExitStatus) : Call.Settles []
      (do Call.perform (Action.record .workerReaped); return status :
        Call (σ × List SystemAnswer) ExitStatus) :=
    .performBind (.record .workerReaped) fun _ => .pure status
  refine .performBind (.besideNotes workers.uptime) fun start => ?_
  cases start.add? timeout with
  | none => exact .halt _
  | some _ =>
    cases conduct.exit with
    | some status => exact hreaped status
    | none => exact .performBind (.notice .workerStuck) fun _ => hreaped .killedByCaller

theorem await_settles (timeout : Duration) (pid : Int32) (decoder : Json.Decoder α)
    (conduct : Conduct) :
    Call.Settles [] (await workers.overheard timeout pid decoder conduct) := by
  unfold await
  cases ((Receiver.start decoder conduct.stream).wait true).1 with
  | reply reply => exact (join_settles workers timeout conduct).bind fun _ => .pure _
  | broken cause => exact (join_settles workers timeout conduct).bind fun _ => .pure _
  | timedOut => exact .performBind (.record .workerReaped) fun _ => .pure _

theorem work_settles (timeout : Duration) (pid : Int32) (probe : Probe (σ × List SystemAnswer) α) :
    Call.Settles [] (work workers.overheard timeout pid probe) := by
  refine .notedBind .worker fun failure => ?_
  cases failure with
  | some cause => exact .pure _
  | none =>
    have hget : Call.Settles [] (get : Call (σ × List SystemAnswer) (Session _)) :=
      fun _ => .of_silent rfl rfl
    exact .performBind (.record .workerStarted) fun _ => hget.bind fun s =>
      await_settles workers timeout pid probe.decoder (probe.conduct s)

theorem finish_settles (context : ProcessContext) (outcome : Except CrawlError α) :
    Call.Settles [] (finish (namespaces.overheard .namespaces) context outcome) := by
  refine .performBind (ProcessContext.detach_settles namespaces context) fun left => ?_
  obtain ⟨lost, c⟩ := left
  cases lost with
  | some cause => exact .performBind (.notice _) fun _ => .halt .aborted
  | none =>
    cases outcome with
    | ok value => exact .pure _
    | error cause => exact .performBind (.notice _) fun _ => .pure _

theorem runLoaded_settles (executor : Executor) (pid : Int32) (kinds : List NamespaceKind)
    (probe : Probe (σ × List SystemAnswer) α) :
    Call.Settles [] (runLoaded (namespaces.overheard .namespaces) workers.overheard executor pid
      kinds probe) := by
  refine .notedBind .reader fun failure => ?_
  cases failure with
  | some cause => exact .pure _
  | none =>
    refine .performBind (.record .readerStarted) fun _ => ?_
    refine .performBind (ProcessContext.attach_settles namespaces _) fun attached => ?_
    obtain ⟨failure, c⟩ := attached
    cases failure with
    | some cause => exact .pure _
    | none =>
      have hunwind (halt : Halt) : Call.Settles []
          (do c.drop (namespaces.overheard .namespaces); throw halt :
            Call (σ × List SystemAnswer) (Except CrawlError α)) :=
        (ProcessContext.drop_settles namespaces c).bind fun _ => .halt halt
      exact ((work_settles workers executor.timeout pid probe).tryCatch hunwind).bind fun outcome =>
        finish_settles namespaces c outcome

/-- Whether notes are taken does not matter to a call. -/
theorem run_beside (toNote : NamespaceAnswer → SystemAnswer) (executor : Executor) (pid : Int32)
    (kinds : List NamespaceKind) (probe : Probe σ α) :
    Call.Mirrors Session.Beside (run namespaces workers executor pid kinds probe)
      (run (namespaces.overheard toNote) workers.overheard executor pid kinds probe.overheard) := by
  rw [run_eq, run_eq]
  refine (Preloader.ensureLoaded_beside executor.hooks workers.tryChild).bind fun _ => ?_
  refine runLoaded_mirrors (namespaces.overheard_mirrors toNote) executor
    (workers.overheard_mirrors executor.timeout) pid kinds rfl ?_
  rintro s t rfl
  rfl

/-- **The journal of a call tells what the system answered.** Whatever the system answers and
whatever becomes of the worker: the entries about opening, entering and closing namespaces and about
the start of readers and workers are those of the requests that were made, in the order in which
they were made, and each tells whether its request was granted. So a namespace of the caller that
is noted as lost was refused, and a worker that is noted as started was granted. The answers are
those that a listener notes, who disturbs nothing. -/
theorem run_told (executor : Executor) (pid : Int32) (kinds : List NamespaceKind)
    (probe : Probe σ α) (s : Session σ) :
    let call := run namespaces workers executor pid kinds probe
    let heard := run (namespaces.overheard .namespaces) workers.overheard executor pid kinds
      probe.overheard (s.inWorld (s.world, []))
    call s = (heard.1, heard.2.inWorld heard.2.world.1) ∧
      ∃ trace, (call s).2.journal = s.journal ++ trace ∧ Tells trace heard.2.world.2 ∧
        (∀ kind, ReentryFailed kind trace ↔ ∃ handle cause,
          .namespaces (.entering handle (some cause)) ∈ heard.2.world.2 ∧
            handle.owner = .caller ∧ handle.kind = kind) ∧
        (.workerStarted ∈ trace ↔ .worker none ∈ heard.2.world.2) := by
  intro call heard
  obtain ⟨hends, hleft⟩ := run_beside namespaces workers .namespaces executor pid kinds probe s
    (s.inWorld (s.world, [])) rfl
  have hsettles : Call.Settles [] (run (namespaces.overheard .namespaces) workers.overheard executor
      pid kinds probe.overheard) := by
    rw [run_eq]
    exact (Preloader.ensureLoaded_settles executor.hooks workers.tryChild).bind fun _ =>
      runLoaded_settles namespaces workers executor pid kinds probe.overheard
  obtain ⟨trace, notes, hjournal, hnotes, htold⟩ := hsettles (s.inWorld (s.world, []))
  obtain rfl : notes = heard.2.world.2 := hnotes.symm
  replace htold : Tells trace heard.2.world.2 := htold
  refine ⟨Prod.ext hends hleft, trace, (congrArg Session.journal hleft).trans hjournal, htold,
    fun kind => ?_, htold.workerStarted_mem_iff⟩
  simp only [ReentryFailed, htold.enterFailed_mem_iff, exists_and_right]

end Executor

end Periscope
