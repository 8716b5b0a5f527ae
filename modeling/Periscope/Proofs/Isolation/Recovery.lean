import Periscope.Proofs.Isolation.Course
import Periscope.Proofs.Namespace.Scopes
import Periscope.Proofs.Namespace.Thread

/-!
# Coming back from an isolated call

Whatever fails on the way, and whatever becomes of the worker, an isolated call comes back:
the thread is in the namespaces it came from, no handle is left, notices are shown as before
and no worker is left behind. Only the loss of the host's mount namespace ends the program.
-/

namespace Periscope

variable {σ ν α : Type} {namespaces : NamespaceSystem σ} {workers : WorkerSystem σ}

/-- Preparing starts no worker. -/
theorem Preparation.workerEntries_eq {trace : List Entry} (h : Preparation trace) :
    workerEntries trace = [] := by
  refine List.filter_eq_nil_iff.mpr fun entry hentry => ?_
  rcases h entry hentry with ⟨name, rfl⟩ | hnotice | rfl
  · simp
  · cases entry <;> simp_all [Entry.topic]
  · simp

namespace Executor

variable {executor : Executor} {timeout : Duration} {pid : Int32} {kinds : List NamespaceKind}
  {probe : Probe σ α} {s joined : Session σ} {working trace : List Entry}
  {r worked : Except Halt (Except CrawlError α)}

/-- Working moves no thread. -/
theorem WorkCourse.concerns (h : WorkCourse workers timeout pid probe joined worked working) :
    Concerns working [.work, .notice] := by
  cases h with
  | notStarted => exact .nil _
  | overrun => exact .cons (by simp [Entry.topic]) (.nil _)
  | reaped _ _ hwarned =>
    refine .cons (by simp [Entry.topic]) ((hwarned.concerns.mono (by simp)).append ?_)
    exact .cons (by simp [Entry.topic]) (.nil _)

/-- A worker that was started is gone when the work is done. -/
theorem WorkCourse.workerEntries_eq {outcome : Except CrawlError α}
    (h : WorkCourse workers timeout pid probe joined (.ok outcome) working) :
    workerEntries working = [] ∨ workerEntries working = [.workerStarted, .workerReaped] := by
  cases h with
  | notStarted => exact .inl rfl
  | reaped _ _ hwarned => exact .inr (by simp [hwarned.concerns.workerEntries_eq])

/-- The work stops only if no clock can show the end of the waiting. -/
theorem WorkCourse.ends (h : WorkCourse workers timeout pid probe joined worked working) :
    (∃ outcome, worked = .ok outcome) ∨
      ∃ cause, worked = .error (.panicked cause) ∧ Overruns workers timeout := by
  cases h with
  | notStarted => exact .inl ⟨_, rfl⟩
  | overrun _ hover => exact .inr ⟨_, rfl, hover.overruns⟩
  | reaped => exact .inl ⟨_, rfl⟩

/-- The work is not to blame for a lost mount namespace. -/
theorem WorkCourse.ne_restore {outcome : Except CrawlError α}
    (h : WorkCourse workers timeout pid probe joined (.ok outcome) working)
    (kind : NamespaceKind) (cause : IoError) : outcome ≠ .error (.namespaceRestore kind cause) := by
  cases h with
  | notStarted => simp
  | reaped => exact Conduct.verdict_ne_restore kind cause

/-- A call ends in one of three ways, and it stops only for a reason. -/
theorem RunCourse.ends (h : RunCourse namespaces workers executor pid kinds probe s r trace) :
    r = .error .aborted ∨ (∃ result, r = .ok result) ∨
      (∃ cause, r = .error (.panicked cause)) ∧ (s.loading = .poisoned ∨
        (∃ hook ∈ executor.hooks, hook.panics = true) ∨ Overruns workers executor.timeout) := by
  cases h with
  | unprepared _ hcause => exact .inr (.inr ⟨⟨_, rfl⟩, hcause.imp_right .inl⟩)
  | unread => exact .inr (.inl ⟨_, rfl⟩)
  | unjoined => exact .inr (.inl ⟨_, rfl⟩)
  | left _ _ hwork =>
    split
    · exact .inl rfl
    · refine .inr (hwork.ends.imp_right ?_)
      rintro ⟨cause, hworked, hover⟩
      exact ⟨⟨cause, hworked⟩, .inr (.inr hover)⟩

/-- A result is never the loss of the mount namespace. -/
theorem RunCourse.ne_restore {result : Except CrawlError α}
    (h : RunCourse namespaces workers executor pid kinds probe s (.ok result) trace)
    (kind : NamespaceKind) (cause : IoError) : result ≠ .error (.namespaceRestore kind cause) := by
  generalize hr : (.ok result : Except Halt (Except CrawlError α)) = r at h
  cases h with
  | unprepared => cases hr
  | unread =>
    obtain rfl := Except.ok.inj hr
    simp
  | unjoined _ harrival =>
    obtain rfl := Except.ok.inj hr
    obtain ⟨source, rfl⟩ := harrival.failure_eq
    simp
  | left _ _ hwork =>
    split at hr
    · cases hr
    · subst hr
      exact hwork.ne_restore kind cause

/-- The caller's namespaces that could not be entered again are those of attaching or those
of leaving. -/
private theorem reentryFailed_left {kind : NamespaceKind}
    {prepared arriving leaving farewell : List Entry} (hprepared : Preparation prepared)
    (hwork : WorkCourse workers timeout pid probe joined worked working)
    (hfarewell : Concerns farewell [.notice]) :
    ReentryFailed kind (prepared ++ (arriving ++ (working ++ (leaving ++ farewell)))) ↔
      ReentryFailed kind arriving ∨ ReentryFailed kind leaving := by
  simp only [reentryFailed_append, not_reentryFailed_of_concerns hprepared.concerns (by simp),
    not_reentryFailed_of_concerns hwork.concerns (by simp),
    not_reentryFailed_of_concerns hfarewell (by simp), false_or, or_false]

/-- The program ends just if the mount namespace cannot be entered again. -/
theorem RunCourse.aborted_iff
    (h : RunCourse namespaces workers executor pid kinds probe s r trace) :
    r = .error .aborted ↔ ReentryFailed .mnt trace := by
  cases h with
  | unprepared hprepared => simp [not_reentryFailed_of_concerns hprepared.concerns]
  | unread hprepared => simp [not_reentryFailed_of_concerns hprepared.concerns]
  | @unjoined _ home _ _ _ _ hprepared harrival =>
    have hkept := harrival.mount_kept ((ProcessContext.new_fresh pid kinds).withHome home)
    simp [reentryFailed_append, not_reentryFailed_of_concerns hprepared.concerns, hkept]
  | @left _ home _ _ lost _ _ _ _ _ _ _ hprepared harrival hwork hdeparture hfarewell =>
    have hfresh := (ProcessContext.new_fresh pid kinds).withHome home
    rw [reentryFailed_left hprepared hwork hfarewell,
      ← hdeparture.lost_iff (harrival.attached hfresh),
      or_iff_right (harrival.not_reentryFailed .mnt)]
    cases lost with
    | some cause => simp
    | none => rcases hwork.ends with ⟨outcome, rfl⟩ | ⟨cause, rfl, _⟩ <;> simp

/-- The mount namespace can be lost only after the target's was entered. -/
theorem RunCourse.mount_entered
    (h : RunCourse namespaces workers executor pid kinds probe s r trace)
    (hlost : ReentryFailed .mnt trace) :
    ∃ handle, .entered handle ∈ trace ∧ handle.owner = .process pid ∧ handle.kind = .mnt := by
  have haborted := h.aborted_iff.mpr hlost
  cases h with
  | unprepared => cases haborted
  | unread => cases haborted
  | unjoined => cases haborted
  | @left _ home c _ lost attempts _ _ _ _ _ _ hprepared harrival hwork hdeparture hfarewell =>
    have hfresh := (ProcessContext.new_fresh pid kinds).withHome home
    have hc := harrival.attached hfresh
    rw [reentryFailed_left hprepared hwork hfarewell,
      or_iff_right (harrival.not_reentryFailed .mnt), hdeparture.reentryFailed_iff hc] at hlost
    obtain ⟨a, ha, hkind, _⟩ := hlost
    have hentered : .mnt ∈ c.entered := by
      rw [← (hdeparture.attempts_kinds hc).1, ← hkind]
      exact List.mem_map_of_mem ha
    obtain ⟨handle, hentry, howner, hmnt⟩ := harrival.entered hfresh hentered
    exact ⟨handle, by simp [hentry], howner, hmnt⟩

/-- The thread comes back to every namespace that it can enter again. -/
theorem RunCourse.inside (origin : Int32 → NamespaceKind → ν) (t : Thread ν)
    (h : RunCourse namespaces workers executor pid kinds probe s r trace) (kind : NamespaceKind) :
    (t.replay origin trace).inside kind = t.inside kind ∨ ReentryFailed kind trace := by
  have hquiet {quiet : List Entry} {topics : List Entry.Topic} (h : Concerns quiet topics)
      (htopics : topics ⊆ Thread.quietTopics) (t : Thread ν) : t.replay origin quiet = t :=
    Thread.replay_of_quiet (h.mono htopics)
  cases h with
  | unprepared hprepared =>
    exact .inl (by rw [hquiet hprepared.concerns (by simp [Thread.quietTopics])])
  | unread hprepared =>
    exact .inl (by rw [hquiet hprepared.concerns (by simp [Thread.quietTopics])])
  | @unjoined _ home _ _ _ _ hprepared harrival =>
    have hfresh := (ProcessContext.new_fresh pid kinds).withHome home
    rw [Thread.replay_append, hquiet hprepared.concerns (by simp [Thread.quietTopics]),
      reentryFailed_append]
    rcases harrival.back origin t hfresh with ⟨hinside, _⟩ | hback
    · exact .inl (congrFun hinside kind)
    · exact (hback.inside kind).imp_right .inr
  | @left _ home _ _ _ _ _ _ _ _ _ _ hprepared harrival hwork hdeparture hfarewell =>
    obtain ⟨hc, hinside, hbehind⟩ :=
      harrival.moved origin t ((ProcessContext.new_fresh pid kinds).withHome home)
    have hback := hdeparture.cameBack origin hc hbehind fun kind hkind => by
      rw [hinside, if_neg hkind]
    rw [Thread.replay_append, hquiet hprepared.concerns (by simp [Thread.quietTopics]),
      Thread.replay_append, Thread.replay_append,
      hquiet hwork.concerns (by simp [Thread.quietTopics]),
      Thread.replay_append, hquiet hfarewell (by simp [Thread.quietTopics]),
      reentryFailed_left hprepared hwork hfarewell]
    exact (hback.inside kind).imp_right .inr

/-- Each scope that is opened is ended. -/
theorem RunCourse.scopes (h : RunCourse namespaces workers executor pid kinds probe s r trace) :
    scopeEntries trace = [] ∨ scopeEntries trace = [.suppressed, .resumed] := by
  cases h with
  | unprepared hprepared => exact .inl (hprepared.concerns.scopeEntries_eq (by simp))
  | unread hprepared => exact .inl (hprepared.concerns.scopeEntries_eq (by simp))
  | unjoined hprepared harrival =>
    rw [scopeEntries_append, hprepared.concerns.scopeEntries_eq (by simp), List.nil_append]
    exact harrival.entries.2.2 (by simp)
  | left hprepared harrival hwork hdeparture hfarewell =>
    refine .inr ?_
    simp [hprepared.concerns.scopeEntries_eq, harrival.entries.2.1, hwork.concerns.scopeEntries_eq,
      hdeparture.entries.2, hfarewell.scopeEntries_eq]

/-- If the call returns, at most one worker was started, and it is gone. -/
theorem RunCourse.workerEntries_eq {result : Except CrawlError α}
    (h : RunCourse namespaces workers executor pid kinds probe s (.ok result) trace) :
    workerEntries trace = [] ∨ workerEntries trace = [.workerStarted, .workerReaped] := by
  generalize hr : (.ok result : Except Halt (Except CrawlError α)) = r at h
  cases h with
  | unprepared => cases hr
  | unread hprepared => exact .inl hprepared.workerEntries_eq
  | unjoined hprepared harrival =>
    exact .inl (by simp [hprepared.workerEntries_eq, harrival.entries.1])
  | left hprepared harrival hwork hdeparture hfarewell =>
    split at hr
    · cases hr
    · subst hr
      simpa [hprepared.workerEntries_eq, harrival.entries.1, hdeparture.entries.1,
        hfarewell.workerEntries_eq] using hwork.workerEntries_eq

/-- **Coming back.** Whatever the system answers and whatever becomes of the worker, a call
ends the program just if the target's mount namespace was entered and the host's cannot be
entered again. Otherwise it returns, unless a hook stops or no clock can show the end of the
waiting; the thread is in the host's mount namespace and in all others of the host but those
that could not be entered again, every handle was given back once, notices are shown as
before, at most one worker was started and is gone, and no lost namespace is reported. -/
theorem run_recovers (namespaces : NamespaceSystem σ) (workers : WorkerSystem σ)
    (origin : Int32 → NamespaceKind → ν) (t : Thread ν) (executor : Executor) (pid : Int32)
    (kinds : List NamespaceKind) (probe : Probe σ α) (s : Session σ) :
    let r := (run namespaces workers executor pid kinds probe s).1
    let s' := (run namespaces workers executor pid kinds probe s).2
    ∃ trace, s'.journal = s.journal ++ trace ∧
      (r = .error .aborted ↔
        (∃ handle, .entered handle ∈ trace ∧ handle.owner = .process pid ∧ handle.kind = .mnt) ∧
          ReentryFailed .mnt trace) ∧
      (r = .error .aborted ∨ (∃ result, r = .ok result) ∨
        (∃ cause, r = .error (.panicked cause)) ∧ (s.loading = .poisoned ∨
          (∃ hook ∈ executor.hooks, hook.panics = true) ∨ Overruns workers executor.timeout)) ∧
      (r ≠ .error .aborted → ∀ kind, (t.replay origin trace).inside kind = t.inside kind ∨
        kind ≠ .mnt ∧ ReentryFailed kind trace) ∧
      (∀ handle, .opened handle ∈ trace → GivenBackOnce handle trace) ∧
      s'.depth = s.depth ∧
      ∀ result, r = .ok result →
        (workerEntries trace = [] ∨ workerEntries trace = [.workerStarted, .workerReaped]) ∧
          ∀ kind cause, result ≠ .error (.namespaceRestore kind cause) := by
  intro r s'
  obtain ⟨trace, hcourse, hgains⟩ :=
    run_course (show run namespaces workers executor pid kinds probe s = (r, s') from rfl)
  have hsound : (s.ledger ∅).Sound := s.sound_empty
  have hwhole := hgains ∅ hsound
  refine ⟨trace, hwhole.journal_eq, ⟨fun haborted => ?_, fun hlost => ?_⟩, hcourse.ends, ?_, ?_, ?_,
    ?_⟩
  · have hlost := hcourse.aborted_iff.mp haborted
    exact ⟨hcourse.mount_entered hlost, hlost⟩
  · exact hcourse.aborted_iff.mpr hlost.2
  · intro hreturned kind
    refine (hcourse.inside origin t kind).imp_right fun hfailed => ⟨?_, hfailed⟩
    rintro rfl
    exact hreturned (hcourse.aborted_iff.mpr hfailed)
  · intro handle hopened
    exact Ledger.givenBackOnce_of_opened hsound hwhole.replay_eq hopened (by simp [Session.ledger])
  · have hdepth := Ledger.replay_depth hwhole.replay_eq
    rcases hcourse.scopes with hnone | hone
    · simpa [hnone, Session.ledger] using hdepth
    · simpa [hone, Session.ledger] using hdepth
  · intro result hr
    rw [hr] at hcourse
    exact ⟨hcourse.workerEntries_eq, hcourse.ne_restore⟩

end Executor

end Periscope
