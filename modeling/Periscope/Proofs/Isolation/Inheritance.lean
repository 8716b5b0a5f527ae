import Periscope.Proofs.Isolation.Recovery

/-!
# What a worker inherits

A worker runs its probe in the session of its caller as it is when the worker is started. A call
comes so far just if its hooks are through, a reader is started, attaching succeeds and the worker
is granted. These steps settle the session, and what becomes of the call behind them is settled by
what the probe does in it.
-/

namespace Periscope.Executor

variable {σ α : Type}

/-- A call joins the target and is granted a worker, which inherits this session. -/
inductive Inherits (namespaces : NamespaceSystem σ) (workers : WorkerSystem σ) (hooks : List Hook)
    (pid : Int32) (kinds : List NamespaceKind) (s : Session σ) : Session σ → Prop where
  | intro {c : ProcessContext} {joined : Session σ}
      (hjoining : Joining namespaces workers hooks pid kinds s none c joined)
      (hstarted : (workers.startWorker joined.world).1 = none) :
      Inherits namespaces workers hooks pid kinds s (behindWorker workers joined)

/-- A call that notes these entries starts a worker, which inherits this session and is noted where
the journal of the session ends. -/
structure StartedIn (namespaces : NamespaceSystem σ) (workers : WorkerSystem σ) (hooks : List Hook)
    (pid : Int32) (kinds : List NamespaceKind) (s : Session σ) (trace : List Entry)
    (inherited : Session σ) : Prop where
  /-- The worker inherits the session. -/
  inherits : Inherits namespaces workers hooks pid kinds s inherited
  /-- Its start is the last thing that was noted by then. -/
  noted : ∃ front back, trace = front ++ .workerStarted :: back ∧
    inherited.journal = s.journal ++ (front ++ [.workerStarted])

variable {namespaces : NamespaceSystem σ} {workers : WorkerSystem σ} {hooks : List Hook}
  {executor : Executor} {pid : Int32} {kinds : List NamespaceKind} {probe : Probe σ α}
  {s inherited : Session σ} {trace : List Entry} {r : Except Halt (Except CrawlError α)}

/-- What joining comes to is settled by its steps. -/
theorem Joining.unique {failure failure' : Option CrawlError} {c c' : ProcessContext}
    {joined joined' : Session σ} (h : Joining namespaces workers hooks pid kinds s failure c joined)
    (h' : Joining namespaces workers hooks pid kinds s failure' c' joined') :
    failure = failure' ∧ joined = joined' := by
  obtain ⟨hload, _, hattach⟩ := h
  obtain ⟨hload', _, hattach'⟩ := h'
  obtain ⟨_, rfl⟩ := Prod.mk.inj (hload.symm.trans hload')
  obtain ⟨hout, rfl⟩ := Prod.mk.inj (hattach.symm.trans hattach')
  exact ⟨(Prod.mk.inj hout).1, rfl⟩

/-- So is the session that a worker inherits. -/
theorem Inherits.unique {other : Session σ}
    (h : Inherits namespaces workers hooks pid kinds s inherited)
    (h' : Inherits namespaces workers hooks pid kinds s other) : inherited = other := by
  obtain ⟨hjoining, _⟩ := h
  obtain ⟨hjoining', _⟩ := h'
  rw [(hjoining.unique hjoining').2]

/-- A call that is granted a worker joins the target, starts the worker and leaves again. -/
theorem RunCourse.of_inherits
    (h : RunCourse namespaces workers executor pid kinds probe s r trace)
    (hin : Inherits namespaces workers executor.hooks pid kinds s inherited) :
    StartedIn namespaces workers executor.hooks pid kinds s trace inherited ∧
      (r = .error .aborted ∨
        (r = .error (.panicked .instantOverflow) ∧
          Overrun workers executor.timeout probe inherited) ∨
        r = .ok ((probe.conduct inherited).verdict executor.timeout pid probe.decoder) ∧
          ¬Overrun workers executor.timeout probe inherited) := by
  obtain ⟨hjoining, hstarted⟩ := id hin
  cases h with
  | unprepared _ _ hload =>
    obtain ⟨hload', _, _⟩ := hjoining
    rw [hload'] at hload
    cases hload
  | unread _ hload hrefused =>
    obtain ⟨hload', hread, _⟩ := hjoining
    obtain ⟨_, rfl⟩ := Prod.mk.inj (hload.symm.trans hload')
    rw [hread] at hrefused
    cases hrefused
  | unjoined _ _ hunjoined => cases (hunjoined.unique hjoining).1
  | @left worked _ _ _ lost attempts prepared arriving working homeward tail farewell _ _ hwork _ _
      hjoined hjournal =>
    obtain ⟨_, rfl⟩ := hjoined.unique hjoining
    have hnoted (rest : List Entry) : ∃ front back,
        prepared ++ (arriving ++ (.workerStarted :: rest ++
          (ProcessContext.departureTrace attempts homeward tail ++ farewell))) =
          front ++ .workerStarted :: back ∧
        (behindWorker workers _).journal = s.journal ++ (front ++ [.workerStarted]) :=
      ⟨prepared ++ arriving, _, (List.append_assoc _ _ _).symm, by
        rw [(behindWorker_gains workers _ ∅).journal_eq, hjournal, List.append_assoc]⟩
    cases hwork with
    | notStarted hrefused =>
      rw [hstarted] at hrefused
      cases hrefused
    | overrun _ hover =>
      refine ⟨⟨hin, hnoted []⟩, ?_⟩
      cases lost with
      | some cause => exact .inl rfl
      | none => exact .inr (.inl ⟨rfl, hover⟩)
    | reaped _ hshown _ =>
      refine ⟨⟨hin, hnoted _⟩, ?_⟩
      cases lost with
      | some cause => exact .inl rfl
      | none => exact .inr (.inr ⟨rfl, hshown⟩)

/-- A call that is granted no worker starts none, and returns why unless it aborts or a hook
stops. -/
theorem RunCourse.of_not_inherits
    (h : RunCourse namespaces workers executor pid kinds probe s r trace)
    (hnone : ∀ inherited, ¬Inherits namespaces workers executor.hooks pid kinds s inherited) :
    workerEntries trace = [] ∧ (r = .error .aborted ∨ (∃ failure, r = .ok (.error failure)) ∨
      (s.loading = .poisoned ∨ ∃ hook ∈ executor.hooks, hook.panics = true)) := by
  cases h with
  | unprepared hprepared hcause => exact ⟨hprepared.workerEntries_eq, .inr (.inr hcause)⟩
  | unread hprepared => exact ⟨hprepared.workerEntries_eq, .inr (.inl ⟨_, rfl⟩)⟩
  | unjoined hprepared harrival =>
    exact ⟨by simp [hprepared.workerEntries_eq, harrival.entries.1], .inr (.inl ⟨_, rfl⟩)⟩
  | left hprepared harrival hwork hdeparture hfarewell hjoining =>
    cases hwork with
    | notStarted =>
      refine ⟨by simp [hprepared.workerEntries_eq, harrival.entries.1, hdeparture.entries.1,
        hfarewell.workerEntries_eq], ?_⟩
      split
      · exact .inl rfl
      · exact .inr (.inl ⟨_, rfl⟩)
    | overrun hstarted => exact absurd ⟨hjoining, hstarted⟩ (hnone _)
    | reaped hstarted => exact absurd ⟨hjoining, hstarted⟩ (hnone _)

/-- A worker is started just if a call is granted one that inherits its session. -/
theorem RunCourse.workerStarted_mem_iff
    (h : RunCourse namespaces workers executor pid kinds probe s r trace) :
    .workerStarted ∈ trace ↔
      ∃ inherited, Inherits namespaces workers executor.hooks pid kinds s inherited := by
  refine ⟨fun hmem => ?_, fun ⟨inherited, hin⟩ => ?_⟩
  · by_contra hnone
    have hentry : .workerStarted ∈ workerEntries trace := by simpa [workerEntries] using hmem
    rw [(h.of_not_inherits (not_exists.mp hnone)).1] at hentry
    cases hentry
  · obtain ⟨front, back, rfl, _⟩ := (h.of_inherits hin).1.noted
    exact List.mem_append_cons_self

/-- A call that started no worker was granted none. -/
theorem RunCourse.not_inherits (h : RunCourse namespaces workers executor pid kinds probe s r trace)
    (hworkerless : workerEntries trace = []) (inherited : Session σ) :
    ¬Inherits namespaces workers executor.hooks pid kinds s inherited := by
  intro hin
  have hentry : .workerStarted ∈ workerEntries trace := by
    simpa [workerEntries] using h.workerStarted_mem_iff.mpr ⟨inherited, hin⟩
  rw [hworkerless] at hentry
  cases hentry

end Periscope.Executor
