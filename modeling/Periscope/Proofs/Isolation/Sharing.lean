import Periscope.Proofs.Isolation.Preloading

/-!
# One preloader for many calls

Calls may share their preload hooks. The first of them starts the hooks, and what becomes of it
settles how all others find them: run, or spoiled by one that stopped. A call goes on behind the
hooks only if they have run.
-/

namespace Periscope

variable {σ : Type} {hooks : List Hook}

/-- Something that the hooks are needed for. -/
inductive Errand (σ : Type) : Type 1 where
  /-- Just to have run them. -/
  | load
  /-- An isolated call. -/
  | run {α : Type} (timeout : Duration) (pid : Int32) (kinds : List NamespaceKind)
      (probe : Probe σ α)

namespace Errand

variable (system : NamespaceSystem σ) (workers : WorkerSystem σ) (hooks : List Hook)

/-- The call that does it. What an isolated call returns is left out. -/
def call : Errand σ → Call σ Unit
  | .load => Preloader.ensureLoaded hooks workers.tryChild
  | .run timeout pid kinds probe => do
    let _ ← Executor.run system workers ⟨timeout, hooks⟩ pid kinds probe

/-- What is done behind the hooks. -/
def behind : Errand σ → Call σ Unit
  | .load => pure ()
  | .run timeout pid kinds probe => do
    let _ ← Executor.runLoaded system workers ⟨timeout, hooks⟩ pid kinds probe

theorem call_eq (errand : Errand σ) : errand.call system workers hooks =
    (Preloader.ensureLoaded hooks workers.tryChild >>= fun _ =>
      errand.behind system workers hooks) := by
  cases errand with
  | load => exact (bind_pure _).symm
  | run timeout pid kinds probe => rw [call, behind, Executor.run_eq, bind_assoc]

/-- What is done behind the hooks leaves them alone. -/
theorem behind_course (errand : Errand σ) (s : Session σ) :
    ∃ trace, Executor.Launch trace ∧
      (errand.behind system workers hooks s).2.journal = s.journal ++ trace ∧
      (errand.behind system workers hooks s).2.loading = s.loading ∧
      ∀ name, (errand.behind system workers hooks s).1 ≠ .error (.panicked (.hook name)) := by
  cases errand with
  | load => exact ⟨[], ⟨rfl, .inl rfl⟩, (List.append_nil _).symm, rfl, nofun⟩
  | run timeout pid kinds probe =>
    generalize hrun : Executor.runLoaded system workers ⟨timeout, hooks⟩ pid kinds probe s = out
    obtain ⟨r, s'⟩ := out
    obtain ⟨trace, hcourse, hgains⟩ := Executor.runLoaded_course hrun
    have hloading := Executor.runLoaded_loading system workers ⟨timeout, hooks⟩ pid kinds probe s
    rw [hrun] at hloading
    have hbehind : (Errand.run timeout pid kinds probe).behind system workers hooks s =
        (r.map fun _ => (), s') := by
      rw [behind, Call.bind_apply, hrun]
      cases r <;> rfl
    rw [hbehind]
    refine ⟨trace, hcourse.launch, (hgains ∅ (Session.sound_empty _)).journal_eq, hloading,
      fun name hname => ?_⟩
    cases r with
    | ok value => cases hname
    | error halt => exact hcourse.ending_ne name (congrArg _ (Except.error.inj hname))

end Errand

/-- A call that needs the hooks, with the sessions that it found and left. -/
structure Use (σ : Type) where
  /-- What was to be done. -/
  errand : Errand σ
  /-- The session before. -/
  found : Session σ
  /-- How the call ended. -/
  ending : Except Halt Unit
  /-- The session after. -/
  left : Session σ

namespace Use

/-- What was noted during the call. -/
def trace (use : Use σ) : List Entry := use.left.journal.drop use.found.journal.length

/-- The call noted this behind what was noted before. -/
def Notes (use : Use σ) (trace : List Entry) : Prop :=
  use.left.journal = use.found.journal ++ trace

theorem Notes.trace_eq {use : Use σ} {trace : List Entry} (h : use.Notes trace) :
    use.trace = trace := by
  rw [Use.trace, h, List.drop_left]

/-- The call runs all hooks and goes on. -/
structure Loads (hooks : List Hook) (use : Use σ) : Prop where
  /-- None was started before. -/
  found : use.found.loading = .fresh
  /-- No hook stops. -/
  sound : ∀ hook ∈ hooks, hook.panics = false
  /-- All are started before anything else is done, but that the operator may be told of the child
  that is tried behind them. -/
  notes : ∃ told rest, Concerns told [.notice] ∧ Executor.Launch rest ∧
    use.Notes (Preloader.startedTrace hooks ++ told ++ rest)
  /-- They stay run. -/
  left : use.left.loading = .loaded
  /-- If the call stops, it is not because of a hook. -/
  ending_ne : ∀ name, use.ending ≠ .error (.panicked (.hook name))

/-- The call is stopped by a hook. -/
structure Stops (hooks : List Hook) (use : Use σ) : Prop where
  /-- None was started before. -/
  found : use.found.loading = .fresh
  /-- The first hook that stops, stops the call. -/
  ending_eq : ∃ hook ∈ hooks, hook.panics = true ∧
    use.ending = .error (.panicked (.hook hook.name))
  /-- The hooks up to that one are started, and nothing else is done. -/
  notes : use.Notes (Preloader.startedTrace hooks)
  /-- They are spoiled. -/
  left : use.left.loading = .poisoned

/-- The call goes on behind hooks that have run. -/
structure GoesOn (use : Use σ) : Prop where
  /-- They have. -/
  found : use.found.loading = .loaded
  /-- None is started again. -/
  notes : ∃ trace, Executor.Launch trace ∧ use.Notes trace
  /-- They stay run. -/
  left : use.left.loading = .loaded
  /-- If the call stops, it is not because of a hook. -/
  ending_ne : ∀ name, use.ending ≠ .error (.panicked (.hook name))

/-- The call is refused because a hook has stopped. -/
structure Refused (use : Use σ) : Prop where
  /-- One has. -/
  found : use.found.loading = .poisoned
  /-- The call stops. -/
  ending_eq : use.ending = .error (.panicked .poisoned)
  /-- Nothing is done. -/
  left_eq : use.left = use.found

end Use

namespace Errand

variable (system : NamespaceSystem σ) (workers : WorkerSystem σ) (hooks : List Hook)

/-- One call in a session. -/
def use (errand : Errand σ) (s : Session σ) : Use σ :=
  ⟨errand, s, (errand.call system workers hooks s).1, (errand.call system workers hooks s).2⟩

/-- Calls in a row, up to one that ends the program. -/
def uses : List (Errand σ) → Session σ → List (Use σ)
  | [], _ => []
  | errand :: rest, s =>
    errand.use system workers hooks s ::
      match (errand.call system workers hooks s).1 with
      | .error .aborted => []
      | _ => uses rest (errand.call system workers hooks s).2

variable {system workers hooks} {errand : Errand σ} {errands : List (Errand σ)} {s : Session σ}

theorem uses_cons (errand : Errand σ) (errands : List (Errand σ)) (s : Session σ) :
    ∃ others, uses system workers hooks (errand :: errands) s =
        errand.use system workers hooks s :: others ∧
      (others = [] ∨
        others = uses system workers hooks errands (errand.use system workers hooks s).left) := by
  rw [uses]
  split
  · exact ⟨_, rfl, .inl rfl⟩
  · exact ⟨_, rfl, .inr rfl⟩

theorem uses_cons_of_ne
    (h : (errand.use system workers hooks s).ending ≠ .error .aborted) :
    uses system workers hooks (errand :: errands) s =
      errand.use system workers hooks s ::
        uses system workers hooks errands (errand.use system workers hooks s).left := by
  rw [uses]
  split
  · next haborted => exact absurd haborted h
  · rfl

/-- Hooks that have run are not run again. -/
theorem use_goesOn (errand : Errand σ) (h : s.loading = .loaded) :
    (errand.use system workers hooks s).GoesOn := by
  have hload := Preloader.ensureLoaded_apply hooks workers.tryChild s
  rw [h] at hload
  have hcall : errand.call system workers hooks s = errand.behind system workers hooks s := by
    rw [call_eq, Call.bind_of_ok _ hload]
  obtain ⟨trace, hlaunch, hjournal, hloading, hending⟩ :=
    errand.behind_course system workers hooks s
  rw [← hcall] at hjournal hloading hending
  exact ⟨h, ⟨trace, hlaunch, hjournal⟩, hloading.trans h, hending⟩

/-- Behind a hook that has stopped every call stops. -/
theorem use_refused (errand : Errand σ) (h : s.loading = .poisoned) :
    (errand.use system workers hooks s).Refused := by
  have hload := Preloader.ensureLoaded_apply hooks workers.tryChild s
  rw [h] at hload
  have hcall : errand.call system workers hooks s = (.error (.panicked .poisoned), s) := by
    rw [call_eq, Call.bind_of_error _ hload]
  exact ⟨h, congrArg Prod.fst hcall, congrArg Prod.snd hcall⟩

/-- The first call runs the hooks. -/
theorem use_fresh (errand : Errand σ) (h : s.loading = .fresh) :
    (errand.use system workers hooks s).Loads hooks ∨
      (errand.use system workers hooks s).Stops hooks := by
  have hload := Preloader.ensureLoaded_apply hooks workers.tryChild s
  rw [h] at hload
  rcases Preloader.outcome_cases hooks with ⟨hok, hsound⟩ | ⟨hook, hhook, hpanics, hstops⟩
  · have hcall : errand.call system workers hooks s = errand.behind system workers hooks
        (Preloader.afterHooks hooks workers.tryChild s) := by
      rw [hok] at hload
      rw [call_eq, Call.bind_of_ok _ hload]
    obtain ⟨rest, hlaunch, hjournal, hloading, hending⟩ :=
      errand.behind_course system workers hooks (Preloader.afterHooks hooks workers.tryChild s)
    rw [← hcall] at hjournal hloading hending
    rw [Preloader.afterHooks, hok] at hjournal hloading
    refine .inl ⟨h, hsound, ⟨_, rest, Preloader.childTrace_concerns workers.tryChild s, hlaunch, ?_⟩,
      hloading, hending⟩
    rwa [List.append_assoc] at hjournal
  · have hcall : errand.call system workers hooks s =
        (.error (.panicked (.hook hook.name)), Preloader.afterHooks hooks workers.tryChild s) := by
      rw [hstops] at hload
      rw [call_eq, Call.bind_of_error _ hload]
    have hleft : (errand.use system workers hooks s).left =
        Preloader.afterHooks hooks workers.tryChild s := congrArg Prod.snd hcall
    rw [Preloader.afterHooks, hstops] at hleft
    exact .inr ⟨h, ⟨hook, hhook, hpanics, congrArg Prod.fst hcall⟩,
      congrArg Session.journal hleft, congrArg Session.loading hleft⟩

/-- What holds of each call and is kept by it holds of all. -/
theorem uses_all {P : Session σ → Prop} {Q : Use σ → Prop}
    (hstep : ∀ (errand : Errand σ) s, P s → Q (errand.use system workers hooks s) ∧
      P (errand.use system workers hooks s).left) (h : P s) :
    ∀ use ∈ uses system workers hooks errands s, Q use := by
  induction errands generalizing s with
  | nil => exact List.forall_mem_nil _
  | cons errand errands ih =>
    obtain ⟨others, huses, hothers⟩ := uses_cons errand errands s
    obtain ⟨huse, hleft⟩ := hstep errand s h
    rw [huses]
    refine List.forall_mem_cons.mpr ⟨huse, ?_⟩
    rcases hothers with rfl | rfl
    · exact List.forall_mem_nil _
    · exact ih hleft

/-- The first call settles how the others find the hooks. -/
inductive History (hooks : List Hook) : List (Use σ) → Prop where
  /-- There was no call. -/
  | none : History hooks []
  /-- All hooks have run. -/
  | loaded {first : Use σ} {others : List (Use σ)} (hfirst : first.Loads hooks)
      (hothers : ∀ use ∈ others, use.GoesOn) : History hooks (first :: others)
  /-- A hook has stopped. -/
  | spoiled {first : Use σ} {others : List (Use σ)} (hfirst : first.Stops hooks)
      (hothers : ∀ use ∈ others, use.Refused) : History hooks (first :: others)

theorem uses_history (errands : List (Errand σ)) (h : s.loading = .fresh) :
    History hooks (uses system workers hooks errands s) := by
  cases errands with
  | nil => exact .none
  | cons errand errands =>
    obtain ⟨others, huses, hothers⟩ := uses_cons errand errands s
    rw [huses]
    rcases use_fresh errand h with hfirst | hfirst
    · refine .loaded hfirst ?_
      rcases hothers with rfl | rfl
      · exact List.forall_mem_nil _
      · exact uses_all (fun errand s hs => ⟨use_goesOn errand hs, (use_goesOn errand hs).left⟩)
          hfirst.left
    · refine .spoiled hfirst ?_
      rcases hothers with rfl | rfl
      · exact List.forall_mem_nil _
      · refine uses_all (P := fun s => s.loading = .poisoned) (fun errand s hs => ?_) hfirst.left
        have hrefused : (errand.use system workers hooks s).Refused := use_refused errand hs
        exact ⟨hrefused, hrefused.left_eq ▸ hs⟩

end Errand

namespace Use

variable {hooks : List Hook} {use first : Use σ} {before others : List (Use σ)}

/-- The call has run all hooks, none of which stops. -/
def RanAll (hooks : List Hook) (use : Use σ) : Prop :=
  hooksStarted use.trace = hooks.map Hook.name ∧ ∀ hook ∈ hooks, hook.panics = false

/-- What holds of a call behind others that share its hooks. -/
structure InOrder (hooks : List Hook) (before : List (Use σ)) (use : Use σ) : Prop where
  /-- The journal only grows. -/
  journal_eq : use.left.journal = use.found.journal ++ use.trace
  /-- The hooks have run before if one of the calls before has run them all. -/
  found_iff : Preloader.isLoaded use.found = true ↔ ∃ earlier ∈ before, earlier.RanAll hooks
  /-- They have run afterwards if one of those calls or this one has run them all. -/
  left_iff : Preloader.isLoaded use.left = true ↔
    ∃ earlier ∈ before ++ [use], earlier.RanAll hooks
  /-- If a hook has stopped one of the calls before, this one stops and does nothing. -/
  spoiled : (∃ earlier ∈ before, ∃ name, earlier.ending = .error (.panicked (.hook name))) →
    use.ending = .error (.panicked .poisoned) ∧ use.left = use.found ∧ use.trace = []
  /-- Before a namespace is opened or entered all hooks have run, those that this call runs before
  anything else, and a reader was started. -/
  away : ∀ front entry back, use.trace = front ++ entry :: back →
    entry.topic = .opening ∨ entry.topic = .entering →
      (∀ hook ∈ hooks, hook.panics = false) ∧
        before.flatMap (fun earlier => hooksStarted earlier.trace) ++ hooksStarted front =
          hooks.map Hook.name ∧
        .readerStarted ∈ front

/-- What is told of the child that is tried starts no hook. -/
private theorem hooksStarted_loaded (hsound : ∀ hook ∈ hooks, hook.panics = false)
    {told : List Entry} (htold : Concerns told [.notice]) :
    hooksStarted (Preloader.startedTrace hooks ++ told) = hooks.map Hook.name := by
  rw [hooksStarted_append, hooksStarted_startedTrace, htold.hooksStarted_eq (by decide),
    Preloader.started_of_sound hsound, List.append_nil]

theorem Loads.hooksStarted_eq (h : use.Loads hooks) :
    hooksStarted use.trace = hooks.map Hook.name := by
  obtain ⟨told, rest, htold, hlaunch, hnotes⟩ := h.notes
  rw [hnotes.trace_eq, hooksStarted_append, hooksStarted_loaded h.sound htold, hlaunch.unhooked,
    List.append_nil]

theorem Loads.ranAll (h : use.Loads hooks) : use.RanAll hooks := ⟨h.hooksStarted_eq, h.sound⟩

theorem GoesOn.hooksStarted_eq (h : use.GoesOn) : hooksStarted use.trace = [] := by
  obtain ⟨trace, hlaunch, hnotes⟩ := h.notes
  rw [hnotes.trace_eq, hlaunch.unhooked]

theorem Refused.trace_eq (h : use.Refused) : use.trace = [] := by
  rw [Use.trace, h.left_eq, List.drop_length]

theorem Stops.not_sound (h : use.Stops hooks) : ¬∀ hook ∈ hooks, hook.panics = false := by
  obtain ⟨hook, hmem, hpanics, _⟩ := h.ending_eq
  exact fun hsound => Bool.false_ne_true ((hsound hook hmem).symm.trans hpanics)

theorem flatMap_goesOn (h : ∀ use ∈ others, use.GoesOn) :
    others.flatMap (fun use => hooksStarted use.trace) = [] :=
  List.flatMap_eq_nil_iff.mpr fun use huse => (h use huse).hooksStarted_eq

end Use

/-- What is done away from home is done behind a reader. -/
theorem Executor.Launch.away {trace front back : List Entry} {entry : Entry}
    (h : Executor.Launch trace) (htrace : trace = front ++ entry :: back)
    (hentry : entry.topic = .opening ∨ entry.topic = .entering) :
    hooksStarted front = [] ∧ .readerStarted ∈ front := by
  have hunhooked := h.unhooked
  rw [htrace, hooksStarted_append] at hunhooked
  refine ⟨(List.append_eq_nil_iff.mp hunhooked).1, ?_⟩
  rcases h.reader with rfl | ⟨rest, rfl⟩
  · simp at htrace
  · cases front with
    | nil =>
      obtain ⟨rfl, _⟩ := List.cons.inj htrace
      simp [Entry.topic] at hentry
    | cons _ front =>
      obtain ⟨rfl, _⟩ := List.cons.inj htrace
      exact List.mem_cons_self

/-- What stands behind entries that it is none of, stands in what follows them. -/
private theorem exists_front {hooked rest front back : List Entry} {entry : Entry}
    (h : hooked ++ rest = front ++ entry :: back) (hentry : entry ∉ hooked) :
    ∃ more, front = hooked ++ more ∧ rest = more ++ entry :: back := by
  rcases List.append_eq_append_iff.mp h with ⟨more, hfront, hrest⟩ | ⟨more, hhooked, hrest⟩
  · exact ⟨more, hfront, hrest⟩
  · cases more with
    | nil =>
      rw [List.append_nil] at hhooked
      exact ⟨[], by rw [hhooked, List.append_nil], hrest.symm⟩
    | cons first more =>
      obtain ⟨rfl, _⟩ := List.cons.inj hrest
      exact absurd (hhooked ▸ List.mem_append_right front List.mem_cons_self) hentry

/-- What is done away from home is not among what is done to prepare. -/
private theorem Preparation.not_away {trace : List Entry} {entry : Entry} (h : Preparation trace)
    (hentry : entry.topic = .opening ∨ entry.topic = .entering) : entry ∉ trace := by
  intro hmem
  have htopic := h.concerns entry hmem
  rcases hentry with hopening | hentering
  · simp [hopening] at htopic
  · simp [hentering] at htopic

namespace Use

variable {hooks : List Hook} {use first : Use σ} {before : List (Use σ)}

theorem Loads.inOrder (h : use.Loads hooks) : use.InOrder hooks [] := by
  obtain ⟨told, rest, htold, hlaunch, hnotes⟩ := h.notes
  have hfound : Preloader.isLoaded use.found = false := by simp [Preloader.isLoaded, h.found]
  have hleft : Preloader.isLoaded use.left = true := by simp [Preloader.isLoaded, h.left]
  refine ⟨?_, by simp [hfound], by simpa [hleft] using h.ranAll, by simp, ?_⟩
  · rw [hnotes.trace_eq]
    exact hnotes
  · intro front entry back htrace hentry
    rw [hnotes.trace_eq] at htrace
    have hprepared : Preparation (Preloader.startedTrace hooks ++ told) :=
      List.forall_mem_append.mpr ⟨Preloader.startedTrace_preparation hooks, htold.preparation⟩
    obtain ⟨more, rfl, hrest⟩ := exists_front htrace (hprepared.not_away hentry)
    obtain ⟨hnone, hreader⟩ := hlaunch.away hrest hentry
    refine ⟨h.sound, ?_, List.mem_append_right _ hreader⟩
    rw [hooksStarted_append, hooksStarted_loaded h.sound htold, hnone, List.append_nil]
    rfl

theorem GoesOn.inOrder (hfirst : first.Loads hooks) (hbefore : ∀ earlier ∈ before, earlier.GoesOn)
    (h : use.GoesOn) : use.InOrder hooks (first :: before) := by
  obtain ⟨trace, hlaunch, hnotes⟩ := h.notes
  have hfound : Preloader.isLoaded use.found = true := by simp [Preloader.isLoaded, h.found]
  have hleft : Preloader.isLoaded use.left = true := by simp [Preloader.isLoaded, h.left]
  refine ⟨?_, iff_of_true hfound ⟨first, List.mem_cons_self, hfirst.ranAll⟩,
    iff_of_true hleft ⟨first, List.mem_cons_self, hfirst.ranAll⟩, ?_, ?_⟩
  · rw [hnotes.trace_eq]
    exact hnotes
  · rintro ⟨earlier, hmem, name, hending⟩
    rcases List.mem_cons.mp hmem with rfl | hmem
    · exact absurd hending (hfirst.ending_ne name)
    · exact absurd hending ((hbefore earlier hmem).ending_ne name)
  · intro front entry back htrace hentry
    rw [hnotes.trace_eq] at htrace
    obtain ⟨hnone, hreader⟩ := hlaunch.away htrace hentry
    refine ⟨hfirst.sound, ?_, hreader⟩
    rw [List.flatMap_cons, hfirst.hooksStarted_eq, flatMap_goesOn hbefore, hnone,
      List.append_nil, List.append_nil]

theorem Stops.inOrder (h : use.Stops hooks) : use.InOrder hooks [] := by
  have hfound : Preloader.isLoaded use.found = false := by simp [Preloader.isLoaded, h.found]
  have hleft : Preloader.isLoaded use.left = false := by simp [Preloader.isLoaded, h.left]
  refine ⟨?_, by simp [hfound], ?_, by simp, ?_⟩
  · rw [h.notes.trace_eq]
    exact h.notes
  · refine iff_of_false (by simp [hleft]) ?_
    rintro ⟨_, _, hran⟩
    exact h.not_sound hran.2
  · intro front entry back htrace hentry
    rw [h.notes.trace_eq] at htrace
    exact absurd (htrace ▸ List.mem_append_right front List.mem_cons_self)
      ((Preloader.startedTrace_preparation hooks).not_away hentry)

theorem Refused.inOrder (hfirst : first.Stops hooks) (h : use.Refused) :
    use.InOrder hooks (first :: before) := by
  have hfound : Preloader.isLoaded use.found = false := by simp [Preloader.isLoaded, h.found]
  refine ⟨?_, ?_, ?_, fun _ => ⟨h.ending_eq, h.left_eq, h.trace_eq⟩, ?_⟩
  · rw [h.trace_eq, h.left_eq, List.append_nil]
  · refine iff_of_false (by simp [hfound]) ?_
    rintro ⟨_, _, hran⟩
    exact hfirst.not_sound hran.2
  · refine iff_of_false (by simp [h.left_eq, hfound]) ?_
    rintro ⟨_, _, hran⟩
    exact hfirst.not_sound hran.2
  · intro front entry back htrace _
    rw [h.trace_eq] at htrace
    simp at htrace

end Use

/-- **Hooks that many calls share are run once.** Over all calls in a row, each of which either just
runs the hooks or is an isolated call, the hooks are started in their order, each at most once. They
count as run from the call on that ran them all, none of which stopped it. Behind a call that was
stopped by a hook every call stops, and nothing is done in it. A namespace is opened or entered only
once all hooks have run and a reader was started. -/
theorem hooks_shared_by_calls (system : NamespaceSystem σ) (workers : WorkerSystem σ)
    (hooks : List Hook) (errands : List (Errand σ)) {s : Session σ} (hfresh : s.loading = .fresh) :
    ((Errand.uses system workers hooks errands s).flatMap fun use => hooksStarted use.trace) <+:
        hooks.map Hook.name ∧
      ∀ before use behind,
        Errand.uses system workers hooks errands s = before ++ use :: behind →
          use.InOrder hooks before := by
  have hhistory : Errand.History hooks (Errand.uses system workers hooks errands s) :=
    Errand.uses_history errands hfresh
  generalize Errand.uses system workers hooks errands s = made at hhistory
  cases hhistory with
  | none => exact ⟨List.nil_prefix, by simp⟩
  | @loaded first others hfirst hothers =>
    constructor
    · rw [List.flatMap_cons, hfirst.hooksStarted_eq, Use.flatMap_goesOn hothers, List.append_nil]
    · intro before use behind hsplit
      cases before with
      | nil =>
        obtain ⟨rfl, _⟩ := List.cons.inj hsplit
        exact hfirst.inOrder
      | cons _ before =>
        obtain ⟨rfl, rfl⟩ := List.cons.inj hsplit
        obtain ⟨hbefore, hbehind⟩ := List.forall_mem_append.mp hothers
        exact Use.GoesOn.inOrder hfirst hbefore (hbehind use List.mem_cons_self)
  | @spoiled first others hfirst hothers =>
    constructor
    · have hothers_eq : others.flatMap (fun use => hooksStarted use.trace) = [] :=
        List.flatMap_eq_nil_iff.mpr fun use huse => by rw [(hothers use huse).trace_eq]; rfl
      rw [List.flatMap_cons, hfirst.notes.trace_eq, hooksStarted_startedTrace, hothers_eq,
        List.append_nil]
      exact (Preloader.started_prefix hooks).map Hook.name
    · intro before use behind hsplit
      cases before with
      | nil =>
        obtain ⟨rfl, _⟩ := List.cons.inj hsplit
        exact hfirst.inOrder
      | cons _ before =>
        obtain ⟨rfl, rfl⟩ := List.cons.inj hsplit
        exact Use.Refused.inOrder hfirst (hothers use (by simp))

/-- A host on which every request is granted. -/
private def grantingHost : NamespaceSystem Unit × WorkerSystem Unit :=
  ({ openNamespace := fun _ _ w => (none, w)
     enterNamespace := fun _ w => (none, w)
     closeNamespace := fun _ w => (none, w)
     currentDirectory := fun w => (.ok "/", w)
     changeDirectory := fun _ w => (none, w) },
   { tryChild := ChildEnding.always
     startReader := fun w => (none, w)
     startWorker := fun w => (none, w)
     uptime := fun w => (⟨0⟩, w) })

/-- An isolated call whose worker ends without a reply. -/
private def errandAway : Errand Unit :=
  .run (.ofSeconds 1) 3 [.mnt]
    (⟨fun _ => ⟨ByteArray.empty, true, some (.exited 0)⟩, Json.Decoder.word⟩ : Probe Unit UInt64)

/-- An isolated call behind another one: each opens a namespace, and the hooks are run once. -/
theorem hooks_shared_by_two_calls :
    let useIn := errandAway.use grantingHost.1 grantingHost.2 Preloader.standardHooks
    let first := useIn { world := () }
    let second := useIn first.left
    hooksStarted first.trace = ["nss", "timezone"] ∧ hooksStarted second.trace = [] ∧
      .opened ⟨2, .caller, .mnt⟩ ∈ second.trace ∧
      second.InOrder Preloader.standardHooks [first] := by
  intro useIn first second
  have hreturns : first.ending ≠ .error .aborted := by decide +kernel
  have huses : Errand.uses grantingHost.1 grantingHost.2 Preloader.standardHooks
      [errandAway, errandAway] { world := () } =
        first :: Errand.uses grantingHost.1 grantingHost.2 Preloader.standardHooks [errandAway]
          first.left := Errand.uses_cons_of_ne hreturns
  obtain ⟨others, hothers, _⟩ := Errand.uses_cons errandAway [] first.left
  rw [hothers] at huses
  refine ⟨by decide +kernel, by decide +kernel, by decide +kernel, ?_⟩
  exact (hooks_shared_by_calls grantingHost.1 grantingHost.2 Preloader.standardHooks
    [errandAway, errandAway] rfl).2 [first] second others huses

end Periscope
