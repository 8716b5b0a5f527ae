import Periscope.Proofs.Namespace.Course

/-!
# The life of a context

A context is attached and detached in any order and any number of times and then given
up. Whatever the system answers, its state only moves forward, it holds a pair of handles
for each kind that was opened on both sides while it is attached and none otherwise, and
every handle that was opened is given back once.
-/

namespace Periscope

variable {σ : Type} {system : NamespaceSystem σ} {s s' : Session σ}

/-- A call on a context. -/
inductive ContextCall where
  /-- To join the target's namespaces. -/
  | attach
  /-- To leave them. -/
  | detach

/-- The kinds of which a namespace of an owner was opened. -/
def openedKinds (owner : Owner) (trace : List Entry) : List NamespaceKind :=
  trace.filterMap fun
    | .opened handle => if handle.owner = owner then some handle.kind else none
    | _ => none

/-- The kinds of which the caller's and the target's namespace were opened. -/
def openedOnBothSides (pid : Int32) (trace : List Entry) : List NamespaceKind :=
  NamespaceKind.all.filter fun kind =>
    kind ∈ openedKinds .caller trace ∧ kind ∈ openedKinds (.process pid) trace

theorem mem_openedKinds {owner : Owner} {trace : List Entry} {kind : NamespaceKind} :
    kind ∈ openedKinds owner trace ↔
      ∃ handle, .opened handle ∈ trace ∧ handle.owner = owner ∧ handle.kind = kind := by
  simp only [openedKinds, List.mem_filterMap]
  constructor
  · rintro ⟨entry, hentry, hkind⟩
    cases entry <;> simp only [reduceCtorEq, Option.ite_none_right_eq_some, Option.some.injEq]
      at hkind
    exact ⟨_, hentry, hkind⟩
  · rintro ⟨handle, hopened, howner, hkind⟩
    exact ⟨_, hopened, by simp [howner, hkind]⟩

namespace ProcessContext

/-- Performs a call on a context. -/
def perform (system : NamespaceSystem σ) (c : ProcessContext) :
    ContextCall → Action σ (Option CrawlError × ProcessContext)
  | .attach => c.attach system
  | .detach => c.detach system

/-- Performs calls on a context, whatever they come to. -/
def performAll (system : NamespaceSystem σ) :
    List ContextCall → ProcessContext → Action σ ProcessContext
  | [], c => return c
  | call :: rest, c => do
    let (_, c) ← c.perform system call
    performAll system rest c

variable {c c' : ProcessContext} {trace : List Entry}

/-- What a call does with the context that it finds. -/
inductive PerformCourse (system : NamespaceSystem σ) (c : ProcessContext) (s : Session σ) :
    ProcessContext → Session σ → Prop where
  /-- An unused context is attached. -/
  | attach {failure : Option CrawlError} {c' : ProcessContext} {s' : Session σ}
      (hstate : c.state = .created) (h : c.attach system s = ((failure, c'), s')) :
      PerformCourse system c s c' s'
  /-- An attached context is detached. -/
  | detach {lost : Option CrawlError} {c' : ProcessContext} {s' : Session σ}
      (hstate : c.state = .attached) (h : c.detach system s = ((lost, c'), s')) :
      PerformCourse system c s c' s'
  /-- A used context is not attached again. -/
  | used (hstate : c.state ≠ .created) : PerformCourse system c s c s
  /-- Of a context that is not attached the operator is told. -/
  | idle (hstate : c.state ≠ .attached) :
      PerformCourse system c s c
        (s.record (.noticed (.detachedWithoutAttach c.pid c.state) s.depth))

/-- A call takes one of these courses. -/
theorem perform_course {s s' : Session σ} {call : ContextCall} {outcome : Option CrawlError}
    (h : c.perform system call s = ((outcome, c'), s')) : PerformCourse system c s c' s' := by
  cases call with
  | attach =>
    by_cases hstate : c.state = .created
    · exact .attach hstate h
    · rw [ProcessContext.perform, attach_of_used hstate] at h
      obtain ⟨hout, rfl⟩ := Prod.mk.inj h
      obtain ⟨_, rfl⟩ := Prod.mk.inj hout
      exact .used hstate
  | detach =>
    by_cases hstate : c.state = .attached
    · exact .detach hstate h
    · rw [ProcessContext.perform, detach_of_idle hstate] at h
      obtain ⟨hout, rfl⟩ := Prod.mk.inj h
      obtain ⟨_, rfl⟩ := Prod.mk.inj hout
      exact .idle hstate

/-- Where a context is in its life, given all entries since it was created. -/
inductive Stage (pid : Int32) (c : ProcessContext) (trace : List Entry) : Prop where
  /-- It was not used. -/
  | created (hfresh : c.Fresh) (hpid : c.pid = pid) (hquiet : Concerns trace [.notice])
  /-- It is attached, and its handles are those that were opened on both sides. -/
  | attached (hattached : c.Attached)
      (hopened : ∀ handle ∈ c.handles, .opened handle ∈ trace)
      (hcount : c.openHandles = 2 * (openedOnBothSides pid trace).length)
  /-- It is through. -/
  | detached (hstate : c.state = .detached) (hhosts : c.hostHandles = [])
      (htargets : c.targetHandles = [])

/-- Paired handles are as many as the kinds that were opened on both sides, if exactly they
and caller's handles without counterpart were opened. -/
private theorem Paired.openHandles_eq (hc : c.Paired)
    (hopened : ∀ handle ∈ c.handles, .opened handle ∈ trace)
    (hkept : ∀ handle, .opened handle ∈ trace → handle.owner = .process c.pid →
      handle ∈ c.handles) :
    c.openHandles = 2 * (openedOnBothSides c.pid trace).length := by
  have hperm : c.openKinds.Perm (openedOnBothSides c.pid trace) := by
    refine (List.perm_ext_iff_of_nodup ?_ ?_).mpr fun kind => ?_
    · exact hc.increasing.imp fun hlt heq => absurd (heq ▸ hlt) (Nat.lt_irrefl _)
    · exact List.Nodup.filter _ (by decide)
    · simp only [openedOnBothSides, List.mem_filter, mem_openedKinds, decide_eq_true_eq]
      constructor
      · intro hkind
        refine ⟨by cases kind <;> decide, ?_, ?_⟩
        · obtain ⟨pair, hpair, rfl⟩ := List.mem_map.mp hkind
          obtain ⟨howner, hpairKind⟩ := hc.host pair hpair
          exact ⟨pair.2, hopened _ (List.mem_append_left _ (List.mem_map_of_mem hpair)), howner,
            hpairKind⟩
        · rw [← hc.sameKinds] at hkind
          obtain ⟨pair, hpair, rfl⟩ := List.mem_map.mp hkind
          obtain ⟨howner, hpairKind⟩ := hc.target pair hpair
          exact ⟨pair.2, hopened _ (List.mem_append_right _ (List.mem_map_of_mem hpair)), howner,
            hpairKind⟩
      · rintro ⟨_, _, handle, hhandle, howner, rfl⟩
        rcases List.mem_append.mp (hkept handle hhandle howner) with hmem | hmem
        · obtain ⟨pair, hpair, rfl⟩ := List.mem_map.mp hmem
          rw [(hc.host pair hpair).1] at howner
          cases howner
        · obtain ⟨pair, hpair, rfl⟩ := List.mem_map.mp hmem
          rw [(hc.target pair hpair).2, ← hc.sameKinds]
          exact List.mem_map_of_mem hpair
  have hsame : c.targetHandles.length = c.hostHandles.length := by
    simpa [openKinds] using congrArg List.length hc.sameKinds
  rw [openHandles, hsame, ← hperm.length_eq, openKinds, List.length_map]
  omega

/-- Entries without an opening do not change which handles were opened. -/
private theorem opened_append_iff {quiet : List Entry} {topics : List Entry.Topic} {handle : Handle}
    (hquiet : Concerns quiet topics) (htopics : .opening ∉ topics) :
    .opened handle ∈ trace ++ quiet ↔ .opened handle ∈ trace := by
  refine ⟨fun h => (List.mem_append.mp h).resolve_right fun h => ?_, List.mem_append_left _⟩
  exact htopics (hquiet _ h)

/-- A fresh context that is attached is attached or through. -/
theorem Arrival.stage {failure : Option CrawlError} {first : List Entry} (hc : c.Fresh)
    (hquiet : Concerns first [.notice]) (h : Arrival system c failure c' trace) :
    Stage c.pid c' (first ++ trace) := by
  cases h with
  | unopened => exact .detached rfl rfl rfl
  | turnedBack => exact .detached rfl rfl rfl
  | @joined c₁ _ opening attempts hopen henter =>
    have hpid : c'.pid = c.pid := by rw [henter.frame, hopen.frame]
    have hsame : c'.handles = c₁.handles := by rw [henter.frame]; rfl
    have hattached := (henter.attached_of_fresh hopen hc).1
    have hmem (handle : Handle) :
        .opened handle ∈ first ++ (opening ++ .suppressed :: attempts.map Attempt.entry) ↔
          .opened handle ∈ opening := by
      have hentering : Concerns (.suppressed :: attempts.map Attempt.entry) [.scope, .entering] :=
        .cons (by simp [Entry.topic]) ((concerns_attempts attempts).mono (by simp))
      rw [List.mem_append, opened_append_iff hentering (by simp)]
      refine ⟨fun h => h.resolve_left fun h => ?_, .inr⟩
      have := hquiet _ h
      simp [Entry.topic] at this
    have hopened : ∀ handle ∈ c'.handles,
        .opened handle ∈ first ++ (opening ++ .suppressed :: attempts.map Attempt.entry) :=
      fun handle hhandle => (hmem handle).mpr (hopen.opened_of_fresh hc handle (hsame ▸ hhandle))
    refine .attached hattached hopened (hpid ▸ hattached.paired.openHandles_eq hopened ?_)
    intro handle hhandle howner
    rw [hsame]
    exact hopen.kept handle ((hmem handle).mp hhandle) (howner.trans (by rw [hpid]))

/-- The entries of a context's life and the handles that are held now: those that others
held before and its own. -/
structure Life (pid : Int32) (s : Session σ) (c : ProcessContext) (trace : List Entry)
    (s' : Session σ) : Prop where
  /-- Where it is. -/
  stage : Stage pid c trace
  /-- No handle is counted twice. -/
  nodup : c.handles.Nodup
  /-- What was added to the journal accounts for its handles. -/
  gains : ∀ held, (s.ledger held).Sound → s.Gains held trace s' (held ∪ c.handles.toFinset)

theorem Life.new (pid : Int32) (kinds : List NamespaceKind) (s : Session σ) :
    Life pid s (new pid kinds) [] s where
  stage := .created (new_fresh pid kinds) rfl (.nil _)
  nodup := by simp [(new_fresh pid kinds).handles_eq]
  gains := fun held _ => by
    simpa [(new_fresh pid kinds).handles_eq] using Session.Gains.refl s held

variable {pid : Int32} {s₁ s₂ : Session σ}

/-- The handles of a context that others do not hold are given back by detaching it. -/
private theorem Life.detach (hlife : Life pid s c trace s₁) (hc : c.state = .attached)
    {lost : Option CrawlError} (h : c.detach system s₁ = ((lost, c'), s₂)) :
    ∃ more, Life pid s c' (trace ++ more) s₂ := by
  obtain ⟨attempts, homeward, tail, hdeparture, rfl, hgains⟩ := detach_course h hc
  refine ⟨departureTrace attempts homeward tail, .detached rfl rfl rfl, List.nodup_nil, ?_⟩
  intro held hsound
  have hopened : ∀ handle ∈ c.handles, .opened handle ∈ trace := by
    cases hlife.stage with
    | created hfresh => simp [hfresh.handles_eq]
    | attached _ hopened => exact hopened
    | detached hstate hhosts htargets => simp [handles, hhosts, htargets]
  have hback := (hlife.gains held hsound).union_sdiff_of_opened hsound hopened
  have hdetached := (hlife.gains held hsound).trans
    (hgains _ hlife.nodup fun handle hhandle =>
      Finset.mem_union_right _ (List.mem_toFinset.mpr hhandle))
  rw [hback] at hdetached
  rwa [handles_released, List.toFinset_nil, Finset.union_empty]

/-- A call continues the life of a context. -/
theorem Life.perform (hlife : Life pid s c trace s₁) {call : ContextCall}
    {outcome : Option CrawlError} (h : c.perform system call s₁ = ((outcome, c'), s₂)) :
    ∃ more, Life pid s c' (trace ++ more) s₂ := by
  cases perform_course h with
  | attach hc hattach =>
    cases hlife.stage with
    | created hfresh hpid hquiet =>
      subst hpid
      obtain ⟨more, harrival, hgains⟩ := attach_course hattach hfresh
      have hstage := harrival.stage (hfresh.withHome _) hquiet
      refine ⟨more, hstage, ?_, fun held hsound => ?_⟩
      · exact (hgains ∅ s₁.sound_empty).1
      · have hfirst := hlife.gains held hsound
        rw [hfresh.handles_eq, List.toFinset_nil, Finset.union_empty] at hfirst
        exact hfirst.trans (hgains held (hfirst.sound hsound)).2
    | attached hattached => simp [hattached.state_eq] at hc
    | detached hstate => simp [hstate] at hc
  | detach hc hdetach => exact hlife.detach hc hdetach
  | used => exact ⟨[], by simpa using hlife⟩
  | idle hc =>
    refine ⟨[.noticed (.detachedWithoutAttach c.pid c.state) s₁.depth], ?_, hlife.nodup,
      fun held hsound => (hlife.gains held hsound).trans (Action.notice_gains rfl _)⟩
    cases hlife.stage with
    | created hfresh hpid hquiet =>
      exact .created hfresh hpid (hquiet.append (by simp [Concerns, Entry.topic]))
    | attached hattached => exact absurd hattached.state_eq hc
    | detached hstate hhosts htargets => exact .detached hstate hhosts htargets

/-- Any calls continue the life of a context. -/
theorem Life.performAll (hlife : Life pid s c trace s₁) {calls : List ContextCall}
    (h : performAll system calls c s₁ = (c', s₂)) :
    ∃ more, Life pid s c' (trace ++ more) s₂ := by
  induction calls generalizing c trace s₁ with
  | nil =>
    obtain ⟨rfl, rfl⟩ := Action.of_pure h
    exact ⟨[], by simpa using hlife⟩
  | cons call rest ih =>
    obtain ⟨⟨outcome, c₁⟩, s₃, hcall, h⟩ := Action.of_bind h
    obtain ⟨first, hlife₁⟩ := hlife.perform hcall
    obtain ⟨second, hlife₂⟩ := ih hlife₁ h
    exact ⟨first ++ second, by simpa using hlife₂⟩

/-- Giving up a context ends its life: no handle of its own is held any more. -/
theorem Life.drop (hlife : Life pid s c trace s₁) {outcome : Except Halt Unit}
    (h : c.drop system s₁ = (outcome, s₂)) :
    ∃ more, ∀ held, (s.ledger held).Sound → s.Gains held (trace ++ more) s₂ held := by
  by_cases hc : c.state = .attached
  · generalize hdetach : c.detach system s₁ = out
    obtain ⟨⟨lost, c'⟩, s₃⟩ := out
    obtain ⟨more, hended⟩ := hlife.detach hc hdetach
    have hstate : c'.handles = [] := by
      obtain ⟨_, _, _, _, rfl, _⟩ := detach_course hdetach hc
      rfl
    have hgains (held : Finset Handle) (hsound : (s.ledger held).Sound) :
        s.Gains held (trace ++ more) s₃ held := by
      simpa [hstate] using hended.gains held hsound
    rcases drop_of_attached hc hdetach with ⟨_, hdrop⟩ | ⟨cause, _, hdrop⟩
    · obtain ⟨_, rfl⟩ := Prod.mk.inj (hdrop.symm.trans h)
      exact ⟨more, hgains⟩
    · obtain ⟨_, rfl⟩ := Prod.mk.inj (hdrop.symm.trans h)
      refine ⟨more ++ [.noticed (.hostLost none cause) s₃.depth], fun held hsound => ?_⟩
      simpa using (hgains held hsound).trans (Action.notice_gains rfl held)
  · obtain ⟨_, rfl⟩ := Prod.mk.inj ((drop_of_idle hc).symm.trans h)
    have hnone : c.handles = [] := by
      cases hlife.stage with
      | created hfresh => exact hfresh.handles_eq
      | attached hattached => exact absurd hattached.state_eq hc
      | detached hstate hhosts htargets => simp [handles, hhosts, htargets]
    exact ⟨[], fun held hsound => by simpa [hnone] using hlife.gains held hsound⟩

end ProcessContext

/-- Nothing was asked of the world, and nothing but notices was added to the journal. -/
structure Session.Rests (s s' : Session σ) : Prop where
  /-- The world was not asked. -/
  world_eq : s'.world = s.world
  /-- No scope was opened or ended. -/
  depth_eq : s'.depth = s.depth
  /-- No handle was given out. -/
  nextHandle_eq : s'.nextHandle = s.nextHandle
  /-- At most notices were added. -/
  journal_eq : ∃ trace, s'.journal = s.journal ++ trace ∧ Concerns trace [.notice]

namespace ProcessContext

variable {c c' : ProcessContext} {s₁ s₂ : Session σ}

/-- The state of a context only moves forward. -/
theorem perform_state {pid : Int32} {trace : List Entry} (hlife : Life pid s c trace s₁)
    {call : ContextCall} {outcome : Option CrawlError}
    (h : c.perform system call s₁ = ((outcome, c'), s₂)) :
    c'.state = c.state ∨ (c.state = .created ∧ c'.state = .attached) ∨
      (c.state = .created ∧ c'.state = .detached) ∨
      (c.state = .attached ∧ c'.state = .detached) := by
  cases perform_course h with
  | attach hc hattach =>
    cases hlife.stage with
    | created hfresh _ hquiet =>
      obtain ⟨more, harrival, _⟩ := attach_course hattach hfresh
      cases harrival.stage (hfresh.withHome _) hquiet with
      | created hfresh' => exact .inl (hfresh'.state_eq.trans hc.symm)
      | attached hattached => exact .inr (.inl ⟨hc, hattached.state_eq⟩)
      | detached hstate => exact .inr (.inr (.inl ⟨hc, hstate⟩))
    | attached hattached => simp [hattached.state_eq] at hc
    | detached hstate => simp [hstate] at hc
  | detach hc hdetach =>
    obtain ⟨_, _, _, _, rfl, _⟩ := detach_course hdetach hc
    exact .inr (.inr (.inr ⟨hc, rfl⟩))
  | used => exact .inl rfl
  | idle => exact .inl rfl

/-- A context that is through does nothing more. -/
theorem perform_rests (hc : c.state = .detached) (call : ContextCall) :
    s.Rests (c.perform system call s).2 := by
  cases call with
  | attach =>
    rw [ProcessContext.perform, attach_of_used (by simp [hc])]
    exact ⟨rfl, rfl, rfl, [], by simp, .nil _⟩
  | detach =>
    rw [ProcessContext.perform, detach_of_idle (by simp [hc])]
    exact ⟨rfl, rfl, rfl, _, rfl, by simp [Concerns, Entry.topic]⟩

/-- A context holds handles only while it is attached, two of each kind that was opened on
both sides. -/
theorem Life.openHandles_eq {pid : Int32} {trace : List Entry} (hlife : Life pid s c trace s₁) :
    c.openHandles =
      if c.state = .attached then 2 * (openedOnBothSides pid trace).length else 0 := by
  cases hlife.stage with
  | created hfresh =>
    simp [hfresh.state_eq, openHandles, hfresh.hostHandles_eq, hfresh.targetHandles_eq]
  | attached hattached _ hcount => rw [if_pos hattached.state_eq, hcount]
  | detached hstate hhosts htargets => simp [hstate, openHandles, hhosts, htargets]

/-- **The life of a context.** Whatever is requested, called and answered, every handle that
was opened is given back just once and not mentioned after that, also if the mount namespace
fails; while it is attached a context holds two handles of each kind that was opened on both
sides and otherwise none; its state only moves forward; and when it is through, no call asks
anything of the world or changes the suppression of notices. -/
theorem handles_in_custody (system : NamespaceSystem σ) (pid : Int32) (kinds : List NamespaceKind)
    (calls : List ContextCall) (s : Session σ) :
    let c := (performAll system calls (new pid kinds) s).1
    let s₁ := (performAll system calls (new pid kinds) s).2
    let s₂ := (c.drop system s₁).2
    ∃ lived ending, s₁.journal = s.journal ++ lived ∧ s₂.journal = s₁.journal ++ ending ∧
      (∀ handle, .opened handle ∈ lived ++ ending → GivenBackOnce handle (lived ++ ending)) ∧
      c.openHandles =
        (if c.state = .attached then 2 * (openedOnBothSides pid lived).length else 0) ∧
      (∀ call, let c' := (c.perform system call s₁).1.2
        c'.state = c.state ∨ (c.state = .created ∧ c'.state = .attached) ∨
          (c.state = .created ∧ c'.state = .detached) ∨
          (c.state = .attached ∧ c'.state = .detached)) ∧
      (c.state = .detached →
        (∀ call, s₁.Rests (c.perform system call s₁).2) ∧ s₁.Rests s₂) := by
  intro c s₁ s₂
  have hcalls : performAll system calls (new pid kinds) s = (c, s₁) := rfl
  have hdrop : c.drop system s₁ = ((c.drop system s₁).1, s₂) := rfl
  obtain ⟨lived, hlife⟩ := (Life.new pid kinds s).performAll hcalls
  obtain ⟨ending, hgains⟩ := hlife.drop hdrop
  have hsound : (s.ledger ∅).Sound := s.sound_empty
  have hwhole := hgains ∅ hsound
  have hfirst := hlife.gains ∅ hsound
  refine ⟨lived, ending, hfirst.journal_eq, ?_, ?_, hlife.openHandles_eq, ?_, ?_⟩
  · rw [hfirst.journal_eq]
    simpa using hwhole.journal_eq
  · intro handle hopened
    exact Ledger.givenBackOnce_of_opened hsound hwhole.replay_eq hopened (by simp [Session.ledger])
  · exact fun call => perform_state hlife rfl
  · intro hc
    refine ⟨fun call => perform_rests hc call, ?_⟩
    have hdrop : s₂ = s₁ := by
      simp [s₂, drop_of_idle (show c.state ≠ .attached by simp [hc])]
    rw [hdrop]
    exact ⟨rfl, rfl, rfl, [], by simp, .nil _⟩

end ProcessContext

end Periscope
