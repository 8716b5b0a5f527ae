import Periscope.Proofs.Isolation.Mirroring

/-!
# What is done behind the hooks

What an isolated call does behind its preload hooks starts no hook and leaves them as they are, and
the first thing it does is to start a reader.
-/

namespace Periscope

variable {σ α : Type} {hooks : List Hook}

/-- The names of the hooks that were started, in order. -/
def hooksStarted (trace : List Entry) : List String :=
  trace.filterMap fun
    | .hookRan name => some name
    | _ => none

section Traces

variable {trace first second : List Entry} {topics : List Entry.Topic}

@[simp] theorem hooksStarted_append :
    hooksStarted (first ++ second) = hooksStarted first ++ hooksStarted second :=
  List.filterMap_append

@[simp] theorem hooksStarted_startedTrace (hooks : List Hook) :
    hooksStarted (Preloader.startedTrace hooks) = (Preloader.started hooks).map Hook.name := by
  rw [hooksStarted, Preloader.startedTrace, List.filterMap_map]
  exact congrFun List.filterMap_eq_map _

/-- Entries about other things start no hook. -/
theorem Concerns.hooksStarted_eq (h : Concerns trace topics) (htopics : .work ∉ topics) :
    hooksStarted trace = [] := by
  refine List.filterMap_eq_nil_iff.mpr fun entry hentry => ?_
  cases entry with
  | hookRan name => exact absurd (h _ hentry) htopics
  | _ => rfl

end Traces

namespace Executor

variable {system : NamespaceSystem σ} {workers : WorkerSystem σ} {executor : Executor} {pid : Int32}
  {kinds : List NamespaceKind} {probe : Probe σ α} {s s' : Session σ}

/-- One session, in which hooks have come so far. -/
private def SameLoading (loading : Loading) (s t : Session σ) : Prop :=
  s = t ∧ s.loading = loading

private theorem SameLoading.outlasts (loading : Loading) :
    Session.Outlasts (SameLoading (σ := σ) loading) Eq where
  record := by
    rintro s _ ⟨rfl, h⟩ entry
    exact ⟨rfl, h⟩
  recordHandle := by
    rintro s _ handle _ ⟨rfl, h⟩ rfl entry
    exact ⟨rfl, h⟩
  notice := by
    rintro s _ ⟨rfl, h⟩ n
    exact ⟨rfl, h⟩
  suppress := by
    rintro s _ ⟨rfl, h⟩
    exact ⟨rfl, h⟩
  resume := by
    rintro s _ ⟨rfl, h⟩
    exact ⟨rfl, h⟩
  number := by
    rintro s _ ⟨rfl, h⟩ owner kind
    exact ⟨rfl, rfl, h⟩

private theorem SameLoading.ask (loading : Loading) (answer : σ → α × σ) :
    Action.Mirrors (SameLoading loading) Eq (Action.ask answer) (Action.ask answer) := by
  rintro s _ ⟨rfl, h⟩
  exact ⟨rfl, rfl, h⟩

/-- What is done behind the hooks does not touch them. -/
theorem runLoaded_loading (system : NamespaceSystem σ) (workers : WorkerSystem σ)
    (executor : Executor) (pid : Int32) (kinds : List NamespaceKind) (probe : Probe σ α)
    (s : Session σ) :
    (runLoaded system workers executor pid kinds probe s).2.loading = s.loading := by
  have hsystem : system.Mirrors (SameLoading s.loading) Eq (fun _ => True) system :=
    { outlasts := SameLoading.outlasts s.loading
      sameNamespace := by
        rintro handle _ rfl
        exact ⟨rfl, rfl⟩
      openNamespace := fun _ _ => SameLoading.ask _ _
      enterNamespace := by
        rintro handle _ rfl
        exact SameLoading.ask _ _
      closeNamespace := by
        rintro handle _ rfl
        exact SameLoading.ask _ _
      currentDirectory := by
        rintro t _ ⟨rfl, h⟩
        exact ⟨⟨rfl, fun _ _ => trivial⟩, rfl, h⟩
      changeDirectory := fun _ => SameLoading.ask _ _ }
  have hworkers : workers.Mirrors (SameLoading s.loading) executor.timeout workers :=
    { startReader := SameLoading.ask _ _
      startWorker := SameLoading.ask _ _
      uptime := by
        rintro t _ ⟨rfl, h⟩
        exact ⟨rfl, rfl, h⟩ }
  have hconduct : ∀ {t u}, SameLoading s.loading t u → probe.conduct t = probe.conduct u := by
    rintro t _ ⟨rfl, _⟩
    rfl
  have hmirrors : Call.Mirrors (SameLoading s.loading)
      (runLoaded system workers executor pid kinds probe)
      (runLoaded system workers executor pid kinds probe) :=
    runLoaded_mirrors hsystem executor hworkers pid kinds rfl hconduct
  exact (hmirrors s s ⟨rfl, rfl⟩).2.2

/-- Everything but hooks, readers and workers. -/
private def awayTopics : List Entry.Topic :=
  [.opening, .entering, .closing, .directory, .scope, .notice]

private theorem departure_concerns {c : ProcessContext} {lost : Option CrawlError}
    {attempts : List Attempt} {homeward tail : List Entry}
    (h : ProcessContext.Departure system c lost attempts homeward tail) :
    Concerns (ProcessContext.departureTrace attempts homeward tail) awayTopics := by
  have hhomeward : Concerns homeward [.directory] := by
    rcases h.homeward_cases with rfl | ⟨path, _, _, rfl⟩ <;> simp [Concerns, Entry.topic]
  refine Concerns.append ((concerns_attempts attempts).mono (by decide))
    (Concerns.append (hhomeward.mono (by decide)) (.cons (by decide) (h.concerns.mono (by decide))))

private theorem arrival_concerns {c c' : ProcessContext} {failure : Option CrawlError}
    {arriving : List Entry} (h : ProcessContext.Arrival system c failure c' arriving) :
    Concerns arriving awayTopics := by
  cases h with
  | unopened hopen hclose =>
    exact (hopen.concerns.mono (by decide)).append (hclose.mono (by decide))
  | joined hopen henter =>
    exact (hopen.concerns.mono (by decide)).append
      (.cons (by decide) ((concerns_attempts _).mono (by decide)))
  | turnedBack hopen henter hreturn =>
    exact (hopen.concerns.mono (by decide)).append (.cons (by decide)
      (((concerns_attempts _).mono (by decide)).append (departure_concerns hreturn)))

/-- What is done behind the hooks: if there is anything, a reader is started first, and no hook is
run again. -/
structure Launch (trace : List Entry) : Prop where
  /-- No hook is run. -/
  unhooked : hooksStarted trace = []
  /-- A reader comes first. -/
  reader : trace = [] ∨ ∃ rest, trace = .readerStarted :: rest

/-- Starting a worker and waiting for it starts no hook. -/
private theorem WorkCourse.hooksStarted_eq {timeout : Duration} {joined : Session σ}
    {working : List Entry} {worked : Except Halt (Except CrawlError α)}
    (h : WorkCourse workers timeout pid probe joined worked working) :
    hooksStarted working = [] := by
  cases h with
  | notStarted => rfl
  | overrun => rfl
  | @reaped waiting _ _ hwarned =>
    have hbehind : hooksStarted (waiting ++ [.workerReaped]) = [] := by
      rw [hooksStarted_append, hwarned.concerns.hooksStarted_eq (by decide)]
      rfl
    exact hbehind

theorem LoadedCourse.launch {r : Except Halt (Except CrawlError α)} {trace : List Entry}
    (h : LoadedCourse system workers executor pid kinds probe s r trace) : Launch trace := by
  cases h with
  | unread => exact ⟨rfl, .inl rfl⟩
  | unjoined harrival =>
    exact ⟨(arrival_concerns harrival).hooksStarted_eq (by decide), .inr ⟨_, rfl⟩⟩
  | @left worked home c joined lost attempts arriving working homeward tail farewell harrival hwork
      hdeparture hfarewell =>
    have hbehind : hooksStarted (arriving ++ (working ++
        (ProcessContext.departureTrace attempts homeward tail ++ farewell))) = [] := by
      simp only [hooksStarted_append, hwork.hooksStarted_eq,
        (arrival_concerns harrival).hooksStarted_eq (by decide),
        (departure_concerns hdeparture).hooksStarted_eq (by decide),
        hfarewell.hooksStarted_eq (by decide), List.append_nil]
    exact ⟨hbehind, .inr ⟨_, rfl⟩⟩

/-- No hook stops a call behind the hooks. -/
theorem LoadedCourse.ending_ne {r : Except Halt (Except CrawlError α)} {trace : List Entry}
    (h : LoadedCourse system workers executor pid kinds probe s r trace) (name : String) :
    r ≠ .error (.panicked (.hook name)) := by
  cases h with
  | unread => nofun
  | unjoined => nofun
  | @left worked _ _ _ lost _ _ _ _ _ _ _ hwork =>
    cases lost with
    | some cause => nofun
    | none =>
      cases hwork with
      | notStarted => nofun
      | overrun => nofun
      | reaped => nofun

end Executor

end Periscope
