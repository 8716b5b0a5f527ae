import Periscope.Proofs.Isolation.Inheritance

/-!
# Notices that an isolated call does not show

A call opens a scope of its own when it joins the target, and a notice that is given before the
scope is ended is dropped. Leaving collects its failures and tells them behind the end of the
scope. Waiting does not: that a worker is killed is told on the spot. So this notice is hidden
whenever it is given, and no other one is.
-/

namespace Periscope

variable {σ α : Type} {depth : Nat} {trace first second : List Entry}
  {topics : List Entry.Topic}

/-- The notices that were given with another number of open scopes than outside. -/
def hiddenNotices (depth : Nat) (trace : List Entry) : List Notice :=
  trace.filterMap fun
    | .noticed n shown => if shown = depth then none else some n
    | _ => none

@[simp] theorem hiddenNotices_append :
    hiddenNotices depth (first ++ second) =
      hiddenNotices depth first ++ hiddenNotices depth second :=
  List.filterMap_append

/-- Where nothing is told nothing is hidden. -/
theorem Concerns.hiddenNotices_eq (h : Concerns trace topics) (htopics : .notice ∉ topics) :
    hiddenNotices depth trace = [] := by
  refine List.filterMap_eq_nil_iff.mpr fun entry hentry => ?_
  have htopic := h entry hentry
  cases entry <;> first | rfl | exact absurd htopic htopics

namespace NoticesFit

/-- Fitting notices fit in each of two stretches, the second behind the first. -/
theorem of_append (h : NoticesFit depth (first ++ second)) :
    NoticesFit depth first ∧ NoticesFit (scopesOpen depth first) second := by
  constructor
  · rintro front n shown back rfl
    exact h front n shown (back ++ second) (by simp)
  · rintro front n shown back rfl
    rw [← scopesOpen_append]
    exact h (first ++ front) n shown back (by simp)

/-- Fitting notices are not hidden where no scope is opened or ended. -/
theorem hiddenNotices_eq (h : NoticesFit depth trace) (htrace : Concerns trace topics)
    (htopics : .scope ∉ topics) : hiddenNotices depth trace = [] := by
  refine List.filterMap_eq_nil_iff.mpr fun entry hentry => ?_
  obtain ⟨front, back, rfl⟩ := List.append_of_mem hentry
  cases entry with
  | noticed n shown =>
    have hshown := h front n shown back rfl
    rw [scopesOpen_of_concerns depth (List.forall_mem_append.mp htrace).1 htopics] at hshown
    simp [hshown]
  | _ => rfl

end NoticesFit

namespace ProcessContext

variable {system : NamespaceSystem σ} {c c' : ProcessContext} {failure lost : Option CrawlError}
  {attempts : List Attempt} {arriving homeward tail : List Entry}

/-- Whatever is told of leaving is told behind the end of the scope. -/
theorem Departure.hiddenNotices_eq (h : Departure system c lost attempts homeward tail)
    (hfit : NoticesFit (depth + 1) (departureTrace attempts homeward tail)) :
    hiddenNotices depth (departureTrace attempts homeward tail) = [] := by
  have hsilent : Concerns (attempts.map Attempt.entry ++ homeward ++ [.resumed])
      [.entering, .directory, .scope] := by
    refine (((concerns_attempts attempts).mono (by simp)).append ?_).append
      (by simp [Concerns, Entry.topic])
    rcases h.homeward_cases with rfl | ⟨path, _, _, rfl⟩ <;> simp [Concerns, Entry.topic]
  have hsplit : departureTrace attempts homeward tail =
      (attempts.map Attempt.entry ++ homeward ++ [.resumed]) ++ tail := by
    simp [departureTrace]
  have hout : scopesOpen (depth + 1) (attempts.map Attempt.entry ++ homeward ++ [.resumed]) =
      depth := by
    have hscopes := h.entries.2
    rw [hsplit, scopeEntries_append, h.concerns.scopeEntries_eq (by simp), List.append_nil]
      at hscopes
    rw [scopesOpen, hscopes]
    rfl
  rw [hsplit] at hfit ⊢
  have htail := hfit.of_append.2
  rw [hout] at htail
  rw [hiddenNotices_append, hsilent.hiddenNotices_eq (by simp),
    htail.hiddenNotices_eq h.concerns (by simp), List.append_nil]

/-- Between the opening of the scope and the last entering nothing is told. -/
private theorem entering_hiddenNotices {kinds : List NamespaceKind} {opening : List Entry}
    (hopen : OpenCourse c kinds failure c' opening)
    (hfit : NoticesFit depth (opening ++ .suppressed :: attempts.map Attempt.entry)) :
    hiddenNotices depth (opening ++ .suppressed :: attempts.map Attempt.entry) = [] ∧
      scopesOpen depth (opening ++ .suppressed :: attempts.map Attempt.entry) = depth + 1 := by
  have hsilent : Concerns (.suppressed :: attempts.map Attempt.entry) [.entering, .scope] :=
    .cons (by simp [Entry.topic]) ((concerns_attempts attempts).mono (by simp))
  constructor
  · rw [hiddenNotices_append, hsilent.hiddenNotices_eq (by simp),
      hfit.of_append.1.hiddenNotices_eq hopen.concerns (by simp), List.append_nil]
  · simp [scopesOpen, hopen.concerns.scopeEntries_eq, Entry.topic,
      (concerns_attempts attempts).scopeEntries_eq]

/-- Whatever is told of attaching is told in front of the scope or behind its end. -/
theorem Arrival.hiddenNotices_eq (h : Arrival system c failure c' arriving)
    (hfit : NoticesFit depth arriving) : hiddenNotices depth arriving = [] := by
  cases h with
  | unopened hopen hclose =>
    exact hfit.hiddenNotices_eq (hopen.concerns.append (hclose.mono (by simp))) (by simp)
  | joined hopen henter => exact (entering_hiddenNotices hopen hfit).1
  | @turnedBack c₁ c₂ cause opening attempts returns homeward tail hopen henter hreturn =>
    rw [← List.cons_append, ← List.append_assoc] at hfit ⊢
    obtain ⟨hentered, hleft⟩ := hfit.of_append
    obtain ⟨hhidden, hinside⟩ := entering_hiddenNotices hopen hentered
    rw [hinside] at hleft
    rw [hiddenNotices_append, hhidden, hreturn.hiddenNotices_eq hleft, List.append_nil]

end ProcessContext

namespace Executor

/-- Which notices of a call with these entries are hidden. -/
inductive Unseen (namespaces : NamespaceSystem σ) (workers : WorkerSystem σ) (executor : Executor)
    (pid : Int32) (kinds : List NamespaceKind) (probe : Probe σ α) (s : Session σ)
    (trace : List Entry) : List Notice → Prop where
  /-- No worker is granted, none is started, and all is shown. -/
  | workerless
      (hnone : ∀ inherited, ¬Inherits namespaces workers executor.hooks pid kinds s inherited)
      (hworkerless : workerEntries trace = []) :
      Unseen namespaces workers executor pid kinds probe s trace []
  /-- The worker ends in time, or the caller hears nothing of it, or no clock can show the end of
  the waiting, and all is shown. -/
  | ended {inherited : Session σ}
      (hstarted : StartedIn namespaces workers executor.hooks pid kinds s trace inherited)
      (hends : ¬(probe.conduct inherited).Stays probe.decoder ∨
        Overrun workers executor.timeout probe inherited) :
      Unseen namespaces workers executor pid kinds probe s trace []
  /-- The caller hears of the worker, which then does not end, and it is not shown that the
  worker is killed. -/
  | stuck {inherited : Session σ}
      (hstarted : StartedIn namespaces workers executor.hooks pid kinds s trace inherited)
      (hstays : (probe.conduct inherited).Stays probe.decoder)
      (hshown : ¬Overrun workers executor.timeout probe inherited) :
      Unseen namespaces workers executor pid kinds probe s trace [.workerStuck]

variable {namespaces : NamespaceSystem σ} {workers : WorkerSystem σ} {executor : Executor}
  {pid : Int32} {kinds : List NamespaceKind} {probe : Probe σ α} {s : Session σ}
  {r : Except Halt (Except CrawlError α)}

/-- A call that starts no worker and hides nothing. -/
private theorem RunCourse.unseen_of_workerless
    (h : RunCourse namespaces workers executor pid kinds probe s r trace)
    (hworkerless : workerEntries trace = []) (hshown : hiddenNotices s.depth trace = []) :
    Unseen namespaces workers executor pid kinds probe s trace (hiddenNotices s.depth trace) := by
  rw [hshown]
  exact .workerless (h.not_inherits hworkerless) hworkerless

/-- Inside the scope only the killing of the worker is told. -/
private theorem WorkCourse.unseen {joined : Session σ} {worked : Except Halt (Except CrawlError α)}
    {working : List Entry}
    (h : WorkCourse workers executor.timeout pid probe joined worked working)
    (hfit : NoticesFit (depth + 1) working)
    (hnone : workerEntries working = [] → workerEntries trace = [] ∧
      ∀ inherited, ¬Inherits namespaces workers executor.hooks pid kinds s inherited)
    (hstarted : (workers.startWorker joined.world).1 = none →
      StartedIn namespaces workers executor.hooks pid kinds s trace (behindWorker workers joined)) :
    Unseen namespaces workers executor pid kinds probe s trace (hiddenNotices depth working) := by
  cases h with
  | notStarted =>
    obtain ⟨hworkerless, hnone⟩ := hnone rfl
    exact .workerless hnone hworkerless
  | overrun hgranted hover => exact .ended (hstarted hgranted) (.inr hover)
  | reaped hgranted hshown hwarned =>
    cases hwarned with
    | silent hends => exact .ended (hstarted hgranted) (.inl hends)
    | stuck hstays shown =>
      have hinside : shown = depth + 1 :=
        hfit [.workerStarted] .workerStuck shown [.workerReaped] rfl
      have hhidden : hiddenNotices depth
          [.workerStarted, .noticed .workerStuck shown, .workerReaped] = [.workerStuck] := by
        simp [hiddenNotices, hinside]
      simp only [List.cons_append, List.nil_append, hhidden]
      exact .stuck (hstarted hgranted) hstays hshown

/-- **Only the killing of a worker is hidden.** Whatever the system answers, whatever becomes of
the probe and however the worker behaves: each notice of a call shows how many scopes were open
when it was given, and these are those that were open before the call, unless the notice says
that a worker is killed. That notice is given inside the call's own scope, just if the caller
hears of the worker, can tell the end of the waiting and the worker does not end by then. -/
theorem notices_shown (namespaces : NamespaceSystem σ) (workers : WorkerSystem σ)
    (executor : Executor) (pid : Int32) (kinds : List NamespaceKind) (probe : Probe σ α)
    (s : Session σ) :
    ∃ trace, (run namespaces workers executor pid kinds probe s).2.journal = s.journal ++ trace ∧
      NoticesFit s.depth trace ∧
      Unseen namespaces workers executor pid kinds probe s trace
        (hiddenNotices s.depth trace) := by
  generalize hrun : run namespaces workers executor pid kinds probe s = out
  obtain ⟨r, s'⟩ := out
  obtain ⟨trace, hcourse, hgains⟩ := run_course hrun
  replace hgains := hgains ∅ s.sound_empty
  have hfit := hgains.noticesFit
  refine ⟨trace, hgains.journal_eq, hfit, ?_⟩
  have hwhole := hcourse
  cases hcourse with
  | unprepared hprepared =>
    exact hwhole.unseen_of_workerless hprepared.workerEntries_eq
      (hfit.hiddenNotices_eq hprepared.concerns (by simp))
  | unread hprepared =>
    exact hwhole.unseen_of_workerless hprepared.workerEntries_eq
      (hfit.hiddenNotices_eq hprepared.concerns (by simp))
  | unjoined hprepared harrival =>
    obtain ⟨htold, harrived⟩ := hfit.of_append
    rw [scopesOpen_of_concerns _ hprepared.concerns (by simp)] at harrived
    refine hwhole.unseen_of_workerless
      (by simp [hprepared.workerEntries_eq, harrival.entries.1]) ?_
    rw [hiddenNotices_append, htold.hiddenNotices_eq hprepared.concerns (by simp),
      harrival.hiddenNotices_eq harrived, List.append_nil]
  | @left worked home c joined lost attempts prepared arriving working homeward tail farewell
      hprepared harrival hwork hdeparture hfarewell hjoining =>
    -- The scopes that are open at each stage, from which the hidden notices of that stage follow.
    obtain ⟨hpreparing, harrived⟩ := hfit.of_append
    rw [scopesOpen_of_concerns _ hprepared.concerns (by simp)] at harrived
    have hjoined : scopesOpen s.depth arriving = s.depth + 1 := by
      rw [scopesOpen, harrival.entries.2.1 rfl]
      rfl
    have hworking := harrived.of_append.2
    rw [hjoined] at hworking
    have hleaving := hworking.of_append.2
    rw [scopesOpen_of_concerns _ hwork.concerns (by simp)] at hleaving
    have hback : scopesOpen (s.depth + 1)
        (ProcessContext.departureTrace attempts homeward tail) = s.depth := by
      rw [scopesOpen, hdeparture.entries.2]
      rfl
    have htold := hleaving.of_append.2
    rw [hback] at htold
    have hloaded : hiddenNotices s.depth prepared = [] :=
      hpreparing.hiddenNotices_eq hprepared.concerns (by simp)
    have hhidden : hiddenNotices s.depth (prepared ++ (arriving ++ (working ++
        (ProcessContext.departureTrace attempts homeward tail ++ farewell)))) =
        hiddenNotices s.depth working := by
      simp only [hiddenNotices_append, hloaded,
        harrival.hiddenNotices_eq harrived.of_append.1,
        hdeparture.hiddenNotices_eq hleaving.of_append.1,
        htold.hiddenNotices_eq hfarewell, List.mem_singleton, reduceCtorEq, not_false_eq_true,
        List.nil_append, List.append_nil]
    have hworker : workerEntries (prepared ++ (arriving ++ (working ++
        (ProcessContext.departureTrace attempts homeward tail ++ farewell)))) =
          workerEntries working := by
      simp [hprepared.workerEntries_eq, harrival.entries.1, hdeparture.entries.1,
        hfarewell.workerEntries_eq]
    rw [hhidden]
    refine hwork.unseen hworking.of_append.1 (fun hnone => ?_) fun hgranted =>
      (hwhole.of_inherits ⟨hjoining, hgranted⟩).1
    rw [← hworker] at hnone
    exact ⟨hnone, hwhole.not_inherits hnone⟩

/-- A system on which every request is granted and which has just been started. -/
private def openSystem : NamespaceSystem Unit × WorkerSystem Unit :=
  ({ openNamespace := fun _ _ w => (none, w)
     enterNamespace := fun _ w => (none, w)
     closeNamespace := fun _ w => (none, w)
     currentDirectory := fun w => (.ok "/", w)
     changeDirectory := fun _ w => (none, w) },
   { tryChild := ChildEnding.always
     startReader := fun w => (none, w)
     startWorker := fun w => (none, w)
     uptime := fun w => (⟨0⟩, w) })

/-- A probe that closes the pipe and then never comes to an end. -/
private def muteProbe : Probe Unit Bool :=
  .of (fun value => some (.bool value)) Json.Decoder.bool fun _ => .hung true

/-- With all scopes closed before the call, the operator is not shown that its worker is killed. -/
theorem killing_unseen :
    hiddenNotices 0 (run openSystem.1 openSystem.2 {} 7 [.mnt] muteProbe
      { world := () }).2.journal = [.workerStuck] := by
  decide +kernel

end Executor

end Periscope
