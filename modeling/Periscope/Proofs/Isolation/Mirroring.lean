import Periscope.Proofs.Isolation.Course
import Periscope.Proofs.Namespace.Mirroring

/-!
# Isolated calls in two worlds

An isolated call behind its preload hooks comes to the same over systems that mirror each other,
if its probe is conducted in the same way in sessions that are related.
-/

namespace Periscope

variable {σ τ α : Type} {R : Session σ → Session τ → Prop} {H : Handle → Handle → Prop}
  {home : String → Prop} {timeout : Duration}

/-- Two systems answer alike about readers and workers. Their clocks may differ, but the end of
the time to wait is an instant for both or for none. -/
structure WorkerSystem.Mirrors (R : Session σ → Session τ → Prop) (timeout : Duration)
    (workers : WorkerSystem σ) (other : WorkerSystem τ) : Prop where
  /-- Both start a reader or none. -/
  startReader : Action.Mirrors R Eq (Action.ask workers.startReader) (Action.ask other.startReader)
  /-- Both start a worker or none. -/
  startWorker : Action.Mirrors R Eq (Action.ask workers.startWorker) (Action.ask other.startWorker)
  /-- The end of the time is in range for both or for none. -/
  uptime : Action.Mirrors R
    (fun start start' => (start.add? timeout).isSome = (start'.add? timeout).isSome)
    (Action.ask workers.uptime) (Action.ask other.uptime)

namespace Executor

variable {workers : WorkerSystem σ} {other : WorkerSystem τ} {system : NamespaceSystem σ}
  {otherSystem : NamespaceSystem τ}

section Waiting

variable (hR : Session.Outlasts R H) (hworkers : workers.Mirrors R timeout other)
include hR hworkers

theorem join_mirrors (conduct : Conduct) :
    Call.Mirrors R (join workers timeout conduct) (join other timeout conduct) := by
  refine .performBind hworkers.uptime fun start start' hstart => ?_
  have hreaped (status : ExitStatus) : Call.Mirrors R
      (do Call.perform (Action.record .workerReaped); return status : Call σ ExitStatus)
      (do Call.perform (Action.record .workerReaped); return status) :=
    .performBindEq (.record hR .workerReaped) fun _ => .pure status
  generalize start.add? timeout = finish at hstart ⊢
  generalize start'.add? timeout = finish' at hstart ⊢
  match finish, finish' with
  | none, none => exact .halt _
  | none, some _ => cases hstart
  | some _, none => cases hstart
  | some _, some _ =>
    cases conduct.exit with
    | some status => exact hreaped status
    | none => exact .performBindEq (.notice hR .workerStuck) fun _ => hreaped .killedByCaller

theorem await_mirrors (pid : Int32) (decoder : Json.Decoder α) (conduct : Conduct) :
    Call.Mirrors R (await workers timeout pid decoder conduct)
      (await other timeout pid decoder conduct) := by
  unfold await
  cases ((Receiver.start decoder conduct.stream).wait true).1 with
  | reply reply => exact (join_mirrors hR hworkers conduct).bind fun _ => .pure _
  | broken cause => exact (join_mirrors hR hworkers conduct).bind fun _ => .pure _
  | timedOut => exact .performBindEq (.record hR .workerReaped) fun _ => .pure _

variable {probe : Probe σ α} {otherProbe : Probe τ α}

theorem work_mirrors (pid : Int32) (hdecoder : probe.decoder = otherProbe.decoder)
    (hconduct : ∀ {s t}, R s t → probe.conduct s = otherProbe.conduct t) :
    Call.Mirrors R (work workers timeout pid probe) (work other timeout pid otherProbe) := by
  refine .performBindEq hworkers.startWorker fun failure => ?_
  cases failure with
  | some cause => exact .pure _
  | none =>
    refine .performBindEq (.record hR .workerStarted) fun _ s t hst => ?_
    obtain ⟨hends, hleft⟩ := await_mirrors hR hworkers pid probe.decoder (probe.conduct s) s t hst
    have hsame : await other timeout pid probe.decoder (probe.conduct s) t =
        await other timeout pid otherProbe.decoder (otherProbe.conduct t) t := by
      rw [hdecoder, hconduct hst]
    rw [hsame] at hends hleft
    exact ⟨hends, hleft⟩

end Waiting

section Running

variable (hsystem : system.Mirrors R H home otherSystem)
include hsystem

theorem finish_mirrors {context context' : ProcessContext} (hc : context.Mirrors H home context')
    (outcome : Except CrawlError α) :
    Call.Mirrors R (finish system context outcome) (finish otherSystem context' outcome) := by
  have hpid : context'.pid = context.pid := by rw [hc.frame]
  have houtlasts := hsystem.outlasts
  unfold finish
  rw [hpid]
  refine .performBind (ProcessContext.detach_mirrors hsystem hc) fun x y hxy => ?_
  obtain ⟨lost, c⟩ := x
  obtain ⟨lost', c'⟩ := y
  obtain ⟨rfl, _⟩ : lost = lost' ∧ c.Mirrors H home c' := hxy
  cases lost with
  | some cause => exact .performBindEq (.notice houtlasts _) fun _ => .halt .aborted
  | none =>
    cases outcome with
    | ok value => exact .pure _
    | error cause => exact .performBindEq (.notice houtlasts _) fun _ => .pure _

/-- An isolated call behind its hooks. -/
theorem runLoaded_mirrors (executor : Executor)
    (hworkers : workers.Mirrors R executor.timeout other)
    (pid : Int32) (kinds : List NamespaceKind) {probe : Probe σ α} {otherProbe : Probe τ α}
    (hdecoder : probe.decoder = otherProbe.decoder)
    (hconduct : ∀ {s t}, R s t → probe.conduct s = otherProbe.conduct t) :
    Call.Mirrors R (runLoaded system workers executor pid kinds probe)
      (runLoaded otherSystem other executor pid kinds otherProbe) := by
  have houtlasts := hsystem.outlasts
  refine .performBindEq hworkers.startReader fun failure => ?_
  cases failure with
  | some cause => exact .pure _
  | none =>
    refine .performBindEq (.record houtlasts .readerStarted) fun _ => ?_
    have hnew : (ProcessContext.new pid kinds).Mirrors H home (ProcessContext.new pid kinds) :=
      ⟨rfl, .nil, .nil, by simp [ProcessContext.new]⟩
    refine .performBind (ProcessContext.attach_mirrors hsystem hnew) fun x y hxy => ?_
    obtain ⟨failure, c⟩ := x
    obtain ⟨failure', c'⟩ := y
    obtain ⟨rfl, hc⟩ : failure = failure' ∧ c.Mirrors H home c' := hxy
    cases failure with
    | some cause => exact .pure _
    | none =>
      refine Call.Mirrors.bind (.tryCatch (work_mirrors houtlasts hworkers pid hdecoder hconduct)
        fun halt => ?_) fun outcome => finish_mirrors hsystem hc outcome
      exact (ProcessContext.drop_mirrors hsystem hc).bind fun _ => .halt halt

end Running

end Executor

end Periscope
