import Periscope.Machine
import Periscope.Proofs.Isolation.Recovery

/-!
# Notices inside a container

A sink of notices that opens files would find those of the container while the thread is in
the target's mount namespace. So notices are suppressed there, from the first entering to
the last. The suppression ends with the last entering whether it succeeds or not: once the
caller's mount namespace cannot be entered again, the operator is told so from inside.
-/

namespace Periscope

variable {σ ν α : Type} {namespaces : NamespaceSystem σ} {workers : WorkerSystem σ}
  {origin : Int32 → NamespaceKind → ν} {home : ν} {t : Thread ν} {depth : Nat}
  {trace first second : List Entry} {topics : List Entry.Topic}

/-- Without an entering the thread stays in its namespaces. -/
theorem Thread.inside_of_concerns (h : Concerns trace topics) (htopics : .entering ∉ topics) :
    (t.replay origin trace).inside = t.inside := by
  induction trace generalizing t with
  | nil => rfl
  | cons entry rest ih =>
    obtain ⟨hentry, hrest⟩ := List.forall_mem_cons.mp h
    rw [replay_cons, ih hrest]
    cases entry <;> first | rfl | exact absurd hentry htopics

/-- At every moment the thread is in the mount namespace `home`, or notices are suppressed, or
the caller's mount namespace could not be entered again before. -/
def Sheltered (origin : Int32 → NamespaceKind → ν) (home : ν) (t : Thread ν) (depth : Nat)
    (trace : List Entry) : Prop :=
  ∀ front back, trace = front ++ back →
    (t.replay origin front).inside .mnt = home ∨ 0 < scopesOpen depth front ∨
      ReentryFailed .mnt front

namespace Sheltered

/-- One thing after another, of which the second matters only if the mount namespace was not
lost in the first. -/
theorem append (h₁ : Sheltered origin home t depth first)
    (h₂ : ¬ReentryFailed .mnt first →
      Sheltered origin home (t.replay origin first) (scopesOpen depth first) second) :
    Sheltered origin home t depth (first ++ second) := by
  intro front back hsplit
  rcases List.append_eq_append_iff.mp hsplit with ⟨more, rfl, rfl⟩ | ⟨more, rfl, rfl⟩
  · by_cases hlost : ReentryFailed .mnt first
    · exact .inr (.inr (reentryFailed_append.mpr (.inl hlost)))
    · rw [Thread.replay_append, scopesOpen_append, reentryFailed_append, or_iff_right hlost]
      exact h₂ hlost more back rfl
  · exact h₁ front more rfl

/-- A thread at home stays there if it enters nothing. -/
theorem of_home (hhome : t.inside .mnt = home) (h : Concerns trace topics)
    (htopics : .entering ∉ topics) : Sheltered origin home t depth trace := by
  rintro front back rfl
  refine .inl ?_
  rw [Thread.inside_of_concerns (List.forall_mem_append.mp h).1 htopics, hhome]

/-- Notices stay suppressed if no scope is ended. -/
theorem of_suppressed (hdepth : 0 < depth) (h : Concerns trace topics) (htopics : .scope ∉ topics) :
    Sheltered origin home t depth trace := by
  rintro front back rfl
  refine .inr (.inl ?_)
  rwa [scopesOpen_of_concerns depth (List.forall_mem_append.mp h).1 htopics]

end Sheltered

namespace ProcessContext

variable {c c₁ c' : ProcessContext} {failure lost : Option CrawlError} {attempts : List Attempt}
  {opening homeward tail arriving : List Entry} {start : Thread ν}

/-- Leaving ends the suppression at home, unless the mount namespace is lost. -/
theorem Departure.sheltered (h : Departure namespaces c lost attempts homeward tail)
    (hc : c.Attached)
    (hbehind : ∀ handle ∈ c.enteredHandles, t.behind handle = start.inside handle.kind)
    (hout : ∀ kind, kind ∉ c.entered → t.inside kind = start.inside kind) (hdepth : 0 < depth) :
    Sheltered origin (start.inside .mnt) t depth (departureTrace attempts homeward tail) := by
  have hback := (h.cameBack origin hc hbehind hout).inside .mnt
  rw [departureTrace, Thread.replay_append, Thread.inside_of_concerns h.concerns_rest (by simp),
    reentryFailed_append, or_iff_left (not_reentryFailed_of_concerns h.concerns_rest (by simp))]
    at hback
  refine (Sheltered.of_suppressed hdepth (concerns_attempts attempts) (by simp)).append ?_
  intro hkept
  exact .of_home (hback.resolve_right hkept) h.concerns_rest (by simp)

/-- The target's namespaces are entered while notices are suppressed. -/
private theorem entering_sheltered {kinds : List NamespaceKind}
    (hopen : OpenCourse c kinds failure c' opening) :
    Sheltered origin (t.inside .mnt) t depth
      (opening ++ .suppressed :: attempts.map Attempt.entry) ∧
      0 < scopesOpen depth (opening ++ .suppressed :: attempts.map Attempt.entry) := by
  have hattempts := concerns_attempts attempts
  have hquiet : Concerns (opening ++ [.suppressed]) [.opening, .closing, .notice, .scope] :=
    (hopen.concerns.mono (by simp)).append (by simp [Concerns, Entry.topic])
  have hsuppressed : 0 < scopesOpen depth (opening ++ [.suppressed]) := by
    rw [scopesOpen_append]
    exact Nat.succ_pos _
  rw [List.append_cons]
  refine ⟨Sheltered.append (.of_home rfl hquiet (by simp)) fun _ => ?_, ?_⟩
  · exact .of_suppressed hsuppressed hattempts (by simp)
  · rwa [scopesOpen_append, scopesOpen_of_concerns _ hattempts (by simp)]

/-- Attaching is sheltered on each of its courses. -/
theorem Arrival.sheltered (h : Arrival namespaces c failure c' arriving) (hc : c.Fresh) :
    Sheltered origin (t.inside .mnt) t depth arriving := by
  cases h with
  | unopened hopen hclose =>
    exact .of_home rfl (hopen.concerns.append (hclose.mono (by simp))) (by simp)
  | joined hopen henter => exact (entering_sheltered hopen).1
  | @turnedBack c₁ c₂ cause opening attempts returns homeward tail hopen henter hreturn =>
    obtain ⟨hsheltered, hdepth⟩ : Sheltered origin (t.inside .mnt) t depth
          (opening ++ .suppressed :: attempts.map Attempt.entry) ∧
        0 < scopesOpen depth (opening ++ .suppressed :: attempts.map Attempt.entry) :=
      entering_sheltered hopen
    obtain ⟨hinside, hbehind⟩ := henter.moved origin t hc hopen
    have hattached := (henter.attached_of_fresh hopen hc).1
    rw [← List.cons_append, ← List.append_assoc]
    refine hsheltered.append fun _ => ?_
    exact hreturn.sheltered hattached hbehind
      (fun kind hkind => by rw [hinside, if_neg hkind]) hdepth

/-- Where the thread is between two calls on a context, given all entries since the context
was created. -/
inductive Whereabouts (origin : Int32 → NamespaceKind → ν) (start : Thread ν) (depth : Nat)
    (c : ProcessContext) (trace : List Entry) : Prop where
  /-- It is where it was. -/
  | home (hfresh : c.Fresh) (hhome : (start.replay origin trace).inside = start.inside)
  /-- It is away, the handles lead home and notices are suppressed. -/
  | away (hattached : c.Attached) (hnodup : c.handles.Nodup)
      (hbehind : ∀ handle ∈ c.enteredHandles,
        (start.replay origin trace).behind handle = start.inside handle.kind)
      (hout : ∀ kind, kind ∉ c.entered →
        (start.replay origin trace).inside kind = start.inside kind)
      (hdepth : 0 < scopesOpen depth trace)
  /-- It is back in the mount namespace, unless this is lost. -/
  | back (hstate : c.state = .detached)
      (hback : ReentryFailed .mnt trace ∨
        (start.replay origin trace).inside .mnt = start.inside .mnt)

/-- The life of a context so far was sheltered. -/
structure ShelteredLife (origin : Int32 → NamespaceKind → ν) (start : Thread ν) (s : Session σ)
    (c : ProcessContext) (trace : List Entry) (s' : Session σ) : Prop where
  /-- What was done is written down. -/
  journal_eq : s'.journal = s.journal ++ trace
  /-- Where the thread is. -/
  whereabouts : Whereabouts origin start s.depth c trace
  /-- Every moment was sheltered. -/
  sheltered : Sheltered origin (start.inside .mnt) start s.depth trace

variable {s s₁ s₂ : Session σ}

theorem ShelteredLife.new (pid : Int32) (kinds : List NamespaceKind) (s : Session σ) :
    ShelteredLife origin start s (new pid kinds) [] s where
  journal_eq := by simp
  whereabouts := .home (new_fresh pid kinds) rfl
  sheltered := .of_home rfl (.nil []) (by simp)

/-- Notices alone change nothing. -/
private theorem ShelteredLife.tell (hlife : ShelteredLife origin start s c trace s₁)
    {told : List Entry} (htold : Concerns told [.notice]) (hc : c.state ≠ .attached)
    (hjournal : s₂.journal = s₁.journal ++ told) :
    ShelteredLife origin start s c (trace ++ told) s₂ := by
  have hinside : (start.replay origin (trace ++ told)).inside =
      (start.replay origin trace).inside := by
    rw [Thread.replay_append, Thread.inside_of_concerns htold (by simp)]
  have hlost : ReentryFailed .mnt (trace ++ told) ↔ ReentryFailed .mnt trace := by
    rw [reentryFailed_append, or_iff_left (not_reentryFailed_of_concerns htold (by simp))]
  refine ⟨by rw [hjournal, hlife.journal_eq, List.append_assoc], ?_, ?_⟩
  · cases hlife.whereabouts with
    | home hfresh hhome => exact .home hfresh (hinside.trans hhome)
    | away hattached => exact absurd hattached.state_eq hc
    | back hstate hback => exact .back hstate (by rwa [hinside, hlost])
  · refine hlife.sheltered.append fun hkept => .of_home ?_ htold (by simp)
    cases hlife.whereabouts with
    | home _ hhome => rw [hhome]
    | away hattached => exact absurd hattached.state_eq hc
    | back _ hback => exact hback.resolve_left hkept

/-- Detaching brings the thread back. -/
private theorem ShelteredLife.detach (hlife : ShelteredLife origin start s c trace s₁)
    (hc : c.state = .attached) (h : c.detach namespaces s₁ = ((lost, c'), s₂)) :
    c'.state = .detached ∧ ∃ more, ShelteredLife origin start s c' (trace ++ more) s₂ := by
  obtain ⟨attempts, homeward, tail, hdeparture, rfl, hgains⟩ := detach_course h hc
  refine ⟨rfl, departureTrace attempts homeward tail, ?_⟩
  cases hlife.whereabouts with
  | home hfresh => simp [hfresh.state_eq] at hc
  | back hstate => simp [hstate] at hc
  | away hattached hnodup hbehind hout hdepth =>
    have hjournal := (hgains c.handles.toFinset hnodup fun _ => List.mem_toFinset.mpr).journal_eq
    have hback := (hdeparture.cameBack origin hattached hbehind hout).inside .mnt
    refine ⟨by rw [hjournal, hlife.journal_eq, List.append_assoc], .back rfl ?_, ?_⟩
    · rw [Thread.replay_append, reentryFailed_append]
      rcases hback with hback | hlost
      · exact .inr hback
      · exact .inl (.inr hlost)
    · exact hlife.sheltered.append fun _ => hdeparture.sheltered hattached hbehind hout hdepth

/-- Attaching a fresh context takes the thread away or leaves it at home. -/
private theorem ShelteredLife.attach (hlife : ShelteredLife origin start s c trace s₁)
    (hc : c.Fresh) (hhome : (start.replay origin trace).inside = start.inside)
    (h : c.attach namespaces s₁ = ((failure, c'), s₂)) :
    ∃ more, ShelteredLife origin start s c' (trace ++ more) s₂ := by
  obtain ⟨more, harrival, hgains⟩ := attach_course h hc
  obtain ⟨hnodup, hgains⟩ := hgains ∅ s₁.sound_empty
  have hfresh := hc.withHome (namespaces.currentDirectory s₁.world).1.toOption
  refine ⟨more, by rw [hgains.journal_eq, hlife.journal_eq, List.append_assoc], ?_, ?_⟩
  · cases failure with
    | none =>
      obtain ⟨hattached, hinside, hbehind⟩ :=
        harrival.moved origin (start.replay origin trace) hfresh
      rw [← Thread.replay_append] at hinside hbehind
      refine .away hattached hnodup (fun handle hhandle => ?_) (fun kind hkind => ?_) ?_
      · rw [hbehind handle hhandle, hhome]
      · rw [hinside, if_neg hkind, hhome]
      · rw [scopesOpen_append, scopesOpen, harrival.entries.2.1 rfl]
        exact Nat.succ_pos _
    | some cause =>
      have hstate : c'.state = .detached := by cases harrival <;> rfl
      refine .back hstate (.inr ?_)
      rw [Thread.replay_append, ← hhome]
      rcases harrival.back origin (start.replay origin trace) hfresh with ⟨hinside, _⟩ | hback
      · rw [hinside]
      · exact (hback.inside .mnt).resolve_right (harrival.mount_kept hfresh)
  · refine hlife.sheltered.append fun _ => ?_
    rw [← hhome]
    exact harrival.sheltered hfresh

/-- A call continues a sheltered life. -/
theorem ShelteredLife.perform (hlife : ShelteredLife origin start s c trace s₁) {call : ContextCall}
    (h : c.perform namespaces call s₁ = ((failure, c'), s₂)) :
    ∃ more, ShelteredLife origin start s c' (trace ++ more) s₂ := by
  cases perform_course h with
  | attach hc hattach =>
    cases hlife.whereabouts with
    | home hfresh hhome => exact hlife.attach hfresh hhome hattach
    | away hattached => simp [hattached.state_eq] at hc
    | back hstate => simp [hstate] at hc
  | detach hc hdetach => exact (hlife.detach hc hdetach).2
  | used => exact ⟨[], by simpa using hlife⟩
  | idle hc => exact ⟨_, hlife.tell (by simp [Concerns, Entry.topic]) hc rfl⟩

/-- Any calls continue a sheltered life. -/
theorem ShelteredLife.performAll (hlife : ShelteredLife origin start s c trace s₁)
    {calls : List ContextCall} (h : performAll namespaces calls c s₁ = (c', s₂)) :
    ∃ more, ShelteredLife origin start s c' (trace ++ more) s₂ := by
  induction calls generalizing c trace s₁ with
  | nil =>
    obtain ⟨rfl, rfl⟩ := Action.of_pure h
    exact ⟨[], by simpa using hlife⟩
  | cons call rest ih =>
    obtain ⟨⟨outcome, c₁⟩, s₃, hcall, h⟩ := Action.of_bind h
    obtain ⟨first, hlife₁⟩ := hlife.perform hcall
    obtain ⟨second, hlife₂⟩ := ih hlife₁ h
    exact ⟨first ++ second, by simpa using hlife₂⟩

/-- Giving up a context ends its life, and this is sheltered too. -/
theorem ShelteredLife.drop (hlife : ShelteredLife origin start s c trace s₁)
    {outcome : Except Halt Unit} (h : c.drop namespaces s₁ = (outcome, s₂)) :
    ∃ more, s₂.journal = s.journal ++ (trace ++ more) ∧
      Sheltered origin (start.inside .mnt) start s.depth (trace ++ more) := by
  by_cases hc : c.state = .attached
  · generalize hdetach : c.detach namespaces s₁ = out
    obtain ⟨⟨lost, c'⟩, s₃⟩ := out
    obtain ⟨hstate, more, hended⟩ := hlife.detach hc hdetach
    rcases drop_of_attached hc hdetach with ⟨_, hdrop⟩ | ⟨cause, _, hdrop⟩
    · obtain ⟨_, rfl⟩ := Prod.mk.inj (hdrop.symm.trans h)
      exact ⟨more, hended.journal_eq, hended.sheltered⟩
    · obtain ⟨_, rfl⟩ := Prod.mk.inj (hdrop.symm.trans h)
      have hfarewell : (s₃.record (.noticed (.hostLost none cause) s₃.depth)).journal =
          s₃.journal ++ [.noticed (.hostLost none cause) s₃.depth] := rfl
      have htold := hended.tell (by simp [Concerns, Entry.topic]) (by simp [hstate]) hfarewell
      rw [List.append_assoc] at htold
      exact ⟨_, htold.journal_eq, htold.sheltered⟩
  · obtain ⟨_, rfl⟩ := Prod.mk.inj ((drop_of_idle hc).symm.trans h)
    exact ⟨[], by simpa using hlife.journal_eq, by simpa using hlife.sheltered⟩

end ProcessContext

namespace Executor

variable {executor : Executor} {pid : Int32} {kinds : List NamespaceKind} {probe : Probe σ α}
  {s : Session σ} {r : Except Halt (Except CrawlError α)}

/-- An isolated call is sheltered on each of its courses. -/
theorem RunCourse.sheltered
    (h : RunCourse namespaces workers executor pid kinds probe s r trace) :
    Sheltered origin (t.inside .mnt) t depth trace := by
  have hstay {prepared : List Entry} (hprepared : Preparation prepared) :
      t.replay origin prepared = t :=
    Thread.replay_of_quiet (hprepared.concerns.mono (by simp [Thread.quietTopics]))
  cases h with
  | unprepared hprepared => exact .of_home rfl hprepared.concerns (by simp)
  | unread hprepared => exact .of_home rfl hprepared.concerns (by simp)
  | @unjoined _ home _ _ _ _ hprepared harrival =>
    refine Sheltered.append (.of_home rfl hprepared.concerns (by simp)) fun _ => ?_
    rw [hstay hprepared]
    exact harrival.sheltered ((ProcessContext.new_fresh pid kinds).withHome home)
  | @left worked home c joined lost attempts prepared arriving working homeward tail farewell
      hprepared harrival hwork hdeparture hfarewell =>
    have hfresh := (ProcessContext.new_fresh pid kinds).withHome home
    obtain ⟨hc, hinside, hbehind⟩ := harrival.moved origin t hfresh
    have hout (kind : NamespaceKind) (hkind : kind ∉ c.entered) :
        (t.replay origin arriving).inside kind = t.inside kind := by
      rw [hinside, if_neg hkind]
    have hsuppressed (depth : Nat) : 0 < scopesOpen depth arriving := by
      rw [scopesOpen, harrival.entries.2.1 rfl]
      exact Nat.succ_pos depth
    refine Sheltered.append (.of_home rfl hprepared.concerns (by simp)) fun _ => ?_
    rw [hstay hprepared]
    refine (harrival.sheltered hfresh).append fun _ => ?_
    refine (Sheltered.of_suppressed (hsuppressed _) hwork.concerns (by simp)).append fun _ => ?_
    rw [Thread.replay_of_quiet (hwork.concerns.mono (by simp [Thread.quietTopics])),
      scopesOpen_of_concerns _ hwork.concerns (by simp)]
    refine (hdeparture.sheltered hc hbehind hout (hsuppressed _)).append fun hkept => ?_
    have hback := (hdeparture.cameBack origin hc hbehind hout).inside .mnt
    exact .of_home (hback.resolve_right hkept) hfarewell (by simp)

/-- **Notices are sheltered.** Whatever is requested, called and answered in the life of a
context, and whatever becomes of an isolated call: at every moment the thread is in the mount
namespace that it came from, or notices are suppressed, or the caller's mount namespace could
not be entered again before. Each notice shows how many scopes suppress it, so one that is
not suppressed is given at home or after this loss. -/
theorem notices_sheltered (namespaces : NamespaceSystem σ) (workers : WorkerSystem σ)
    (origin : Int32 → NamespaceKind → ν) (t : Thread ν) (pid : Int32) (kinds : List NamespaceKind)
    (calls : List ContextCall) (executor : Executor) (probe : Probe σ α) (s : Session σ) :
    let lived := ProcessContext.performAll namespaces calls (.new pid kinds) s
    (∃ trace, (lived.1.drop namespaces lived.2).2.journal = s.journal ++ trace ∧
      Sheltered origin (t.inside .mnt) t s.depth trace ∧ NoticesFit s.depth trace) ∧
    ∃ trace, (run namespaces workers executor pid kinds probe s).2.journal = s.journal ++ trace ∧
      Sheltered origin (t.inside .mnt) t s.depth trace ∧ NoticesFit s.depth trace := by
  intro lived
  constructor
  · have hcalls : ProcessContext.performAll namespaces calls (.new pid kinds) s =
        (lived.1, lived.2) := rfl
    have hdrop : lived.1.drop namespaces lived.2 =
        ((lived.1.drop namespaces lived.2).1, (lived.1.drop namespaces lived.2).2) := rfl
    have hborn : ProcessContext.ShelteredLife origin t s (.new pid kinds) [] s := .new pid kinds s
    obtain ⟨first, hlife⟩ := (ProcessContext.Life.new pid kinds s).performAll hcalls
    obtain ⟨second, hgains⟩ := hlife.drop hdrop
    obtain ⟨third, hlived⟩ := hborn.performAll hcalls
    obtain ⟨fourth, hjournal, hsheltered⟩ := hlived.drop hdrop
    replace hgains := hgains ∅ s.sound_empty
    -- Both accounts of the life are of the same entries, those added to the journal.
    have hsame := hgains.journal_eq.symm.trans hjournal
    rw [← List.append_cancel_left hsame] at hjournal hsheltered
    exact ⟨_, hjournal, hsheltered, hgains.noticesFit⟩
  · obtain ⟨trace, hcourse, hgains⟩ :=
      run_course (show run namespaces workers executor pid kinds probe s = (_, _) from rfl)
    replace hgains := hgains ∅ s.sound_empty
    exact ⟨trace, hgains.journal_eq, hcourse.sheltered, hgains.noticesFit⟩

end Executor

/-- A machine on which the caller's mount namespace can be neither entered again nor closed. -/
private def sealedMachine : Machine :=
  { namespaces := .script
      [⟨.entering, true, .mnt, .system 1, none⟩, ⟨.closing, true, .mnt, .system 5, none⟩] }

/-- A thread in namespaces that belong to no process; other processes are in their own. -/
private def visitor : Thread (Option Int32) :=
  { inside := fun _ => none, behind := fun _ => none, directory := (none, "/") }

/-- Without the exception a notice is given inside the container: the mount namespace is lost,
the scope is ended, and then a handle cannot be closed. -/
theorem notice_from_inside :
    ∃ front n back,
      (ProcessContext.performAll Machine.namespaceSystem [.attach, .detach] (.new 7 [.mnt])
        { world := sealedMachine }).2.journal = front ++ .noticed n 0 :: back ∧
      (visitor.replay (fun pid _ => some pid) front).inside .mnt = some 7 ∧
      visitor.inside .mnt = none := by
  refine ⟨[.opened ⟨0, .caller, .mnt⟩, .opened ⟨1, .process 7, .mnt⟩, .suppressed,
      .entered ⟨1, .process 7, .mnt⟩, .enterFailed ⟨0, .caller, .mnt⟩, .resumed,
      .closeFailed ⟨0, .caller, .mnt⟩], .handleNotClosed .mnt (.system 5),
    [.closed ⟨1, .process 7, .mnt⟩], ?_, ?_, rfl⟩
  · decide +kernel
  · decide

end Periscope
