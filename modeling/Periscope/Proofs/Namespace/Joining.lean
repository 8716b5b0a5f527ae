import Periscope.Proofs.Namespace.Course
import Periscope.Proofs.Namespace.Listening

/-!
# Which namespaces are joined

Joining a namespace takes three steps: the caller's is opened, the target's is opened, and the
target's is entered. A listener notes what the system answers. From its notes it follows for
each requested kind whether it is joined or left out, and for the mount namespace whether
attaching fails. Since the mount namespace comes last, a failed attempt has nothing to restore.
-/

namespace Periscope

variable {σ α β : Type}

/-- The system with a listener that notes all answers about namespaces. -/
def NamespaceSystem.listened (system : NamespaceSystem σ) :
    NamespaceSystem (σ × List NamespaceAnswer) := system.overheard id

/-- A step of joining a namespace. -/
inductive JoinStep where
  /-- Opening the caller's. -/
  | openHost
  /-- Opening the target's. -/
  | openTarget
  /-- Entering the target's. -/
  | enterTarget
  deriving DecidableEq

/-- The step of joining a namespace of a process that is answered, with the answer. -/
def NamespaceAnswer.joinStep? (pid : Int32) (kind : NamespaceKind) :
    NamespaceAnswer → Option (JoinStep × Option IoError)
  | .opening .caller k refusal => if k = kind then some (.openHost, refusal) else none
  | .opening (.process p) k refusal =>
    if p = pid ∧ k = kind then some (.openTarget, refusal) else none
  | .entering handle refusal =>
    if handle.owner = .process pid ∧ handle.kind = kind then some (.enterTarget, refusal) else none
  | .closing _ _ => none

/-- The answers to the steps of joining a namespace of a process, in order. -/
def joining (pid : Int32) (kind : NamespaceKind) (notes : List NamespaceAnswer) :
    List (JoinStep × Option IoError) :=
  notes.filterMap (NamespaceAnswer.joinStep? pid kind)

/-- What joining a namespace comes to, given all answers to its steps: nothing, or the stage at
which it was refused and why. Each step is taken once, and none behind a refusal. -/
inductive JoinVerdict : List (JoinStep × Option IoError) → Option (JoinStage × IoError) → Prop where
  /-- The caller's namespace cannot be opened. -/
  | hostUnopened (cause : IoError) :
      JoinVerdict [(.openHost, some cause)] (some (.opening, cause))
  /-- The target's namespace cannot be opened. -/
  | targetUnopened (cause : IoError) :
      JoinVerdict [(.openHost, none), (.openTarget, some cause)] (some (.opening, cause))
  /-- The target's namespace cannot be entered. -/
  | unentered (cause : IoError) :
      JoinVerdict [(.openHost, none), (.openTarget, none), (.enterTarget, some cause)]
        (some (.entering, cause))
  /-- The target's namespace is entered. -/
  | joined :
      JoinVerdict [(.openHost, none), (.openTarget, none), (.enterTarget, none)] none

variable {pid : Int32} {kind : NamespaceKind} {first second : List NamespaceAnswer}

@[simp] theorem joining_nil : joining pid kind [] = [] := rfl

@[simp] theorem joining_append :
    joining pid kind (first ++ second) = joining pid kind first ++ joining pid kind second :=
  List.filterMap_append

namespace Action

/-- The action is told nothing about joining namespaces of a process. -/
def Aside (pid : Int32) (a : Action (σ × List NamespaceAnswer) α) : Prop :=
  ∀ s kind, joining pid kind (a s).2.world.2 = joining pid kind s.world.2

theorem Aside.of_silent {a : Action (σ × List NamespaceAnswer) α}
    (h : ∀ s, (a s).2.world.2 = s.world.2) : Aside pid a := fun s kind => by rw [h]

theorem Aside.bind {a : Action (σ × List NamespaceAnswer) α}
    {f : α → Action (σ × List NamespaceAnswer) β} (h : Aside pid a) (hthen : ∀ x, Aside pid (f x)) :
    Aside pid (a >>= f) := fun s kind =>
  (hthen (a s).1 (a s).2 kind).trans (h s kind)

variable {s s' : Session (σ × List NamespaceAnswer)}

theorem Aside.joining_eq {a : Action (σ × List NamespaceAnswer) α} {x : α} (h : Aside pid a)
    (hrun : a s = (x, s')) (kind : NamespaceKind) :
    joining pid kind s'.world.2 = joining pid kind s.world.2 := by
  have hsame := h s kind
  rwa [hrun] at hsame

variable {system : NamespaceSystem σ}

theorem closeNamespace_aside (handle : Handle) :
    Aside pid (closeNamespace system.listened handle) := by
  refine Aside.bind (fun s kind => ?_) fun failure => ?_
  · exact joining_append.trans (List.append_nil _)
  · cases failure <;> exact .of_silent fun _ => rfl

theorem closeHandles_aside (handles : List Handle) :
    Aside pid (closeHandles system.listened handles) := by
  induction handles with
  | nil => exact .of_silent fun _ => rfl
  | cons handle rest ih => exact (closeNamespace_aside handle).bind fun _ => ih

theorem notices_aside (list : List Notice) :
    Aside pid (notices list : Action (σ × List NamespaceAnswer) Unit) := by
  induction list with
  | nil => exact .of_silent fun _ => rfl
  | cons n rest ih => exact (Aside.of_silent fun _ => rfl).bind fun _ => ih

/-- Entering is told one answer, which it returns. -/
private theorem enterNamespace_told {handle : Handle} {failure : Option IoError}
    (h : enterNamespace system.listened handle s = (failure, s')) :
    s'.world.2 = s.world.2 ++ [.entering handle failure] := by
  obtain ⟨rfl, rfl⟩ := Prod.mk.inj h
  rfl

/-- Entering the caller's namespaces again is no step of joining. -/
theorem reenter_aside {handles : List Handle} (h : ∀ handle ∈ handles, handle.owner = .caller) :
    Aside pid (reenter system.listened handles) := by
  induction handles with
  | nil => exact .of_silent fun _ => rfl
  | cons handle rest ih =>
    obtain ⟨hhandle, hrest⟩ := List.forall_mem_cons.mp h
    refine Aside.bind (fun s kind => ?_) fun _ => (ih hrest).bind fun _ => .of_silent fun _ => rfl
    rw [enterNamespace_told (Prod.eta (enterNamespace system.listened handle s)).symm]
    simp [joining, NamespaceAnswer.joinStep?, hhandle]

/-- Opening is told one answer. -/
private theorem openNamespace_told {owner : Owner} {result : Except IoError Handle}
    (h : openNamespace system.listened owner kind s = (result, s')) :
    ∃ refusal, s'.world.2 = s.world.2 ++ [.opening owner kind refusal] ∧
      ((∃ cause, refusal = some cause ∧ result = .error cause) ∨
        refusal = none ∧ ∃ handle, result = .ok handle) := by
  obtain ⟨refusal, s₁, hask, h⟩ := of_bind h
  obtain ⟨hrefusal, rfl⟩ := of_ask hask
  cases refusal with
  | some cause =>
    obtain ⟨rfl, rfl⟩ := Prod.mk.inj h
    exact ⟨some cause, by rw [hrefusal]; rfl, .inl ⟨cause, rfl, rfl⟩⟩
  | none =>
    obtain ⟨rfl, rfl⟩ := Prod.mk.inj h
    exact ⟨none, by rw [hrefusal]; rfl, .inr ⟨rfl, _, rfl⟩⟩

/-- Opening a pair is told about the first two steps of its kind, up to a refusal. -/
private theorem openPair_told {result : Except IoError (Handle × Handle)}
    (h : openPair system.listened pid kind s = (result, s')) :
    (∀ other, other ≠ kind → joining pid other s'.world.2 = joining pid other s.world.2) ∧
      ∃ asked, joining pid kind s'.world.2 = joining pid kind s.world.2 ++ asked ∧
        ((∃ cause, result = .error cause ∧ JoinVerdict asked (some (.opening, cause))) ∨
          ∃ pair, result = .ok pair ∧ asked = [(.openHost, none), (.openTarget, none)]) := by
  obtain ⟨first, s₁, hhost, h⟩ := of_bind h
  obtain ⟨refusal, hnotes, ⟨cause, rfl, rfl⟩ | ⟨rfl, host, rfl⟩⟩ := openNamespace_told hhost
  · obtain ⟨rfl, rfl⟩ := of_pure h
    refine ⟨fun other hother => ?_, [(.openHost, some cause)], ?_, .inl ⟨cause, rfl, ?_⟩⟩
    · simp [hnotes, joining, NamespaceAnswer.joinStep?, hother.symm]
    · simp [hnotes, joining, NamespaceAnswer.joinStep?]
    · exact .hostUnopened cause
  obtain ⟨second, s₂, htarget, h⟩ := of_bind h
  obtain ⟨refusal, hnotes', ⟨cause, rfl, rfl⟩ | ⟨rfl, target, rfl⟩⟩ := openNamespace_told htarget
  · obtain ⟨_, s₃, hclose, h⟩ := of_bind h
    obtain ⟨rfl, rfl⟩ := of_pure h
    have hclosed (kind : NamespaceKind) :
        joining pid kind s'.world.2 = joining pid kind s₂.world.2 :=
      (closeNamespace_aside host).joining_eq hclose kind
    refine ⟨fun other hother => ?_, [(.openHost, none), (.openTarget, some cause)], ?_,
      .inl ⟨cause, rfl, .targetUnopened cause⟩⟩
    · rw [hclosed]
      simp [hnotes', hnotes, joining, NamespaceAnswer.joinStep?, hother.symm]
    · rw [hclosed]
      simp [hnotes', hnotes, joining, NamespaceAnswer.joinStep?]
  · obtain ⟨rfl, rfl⟩ := of_pure h
    refine ⟨fun other hother => ?_, _, ?_, .inr ⟨_, rfl, rfl⟩⟩
    · simp [hnotes', hnotes, joining, NamespaceAnswer.joinStep?, hother.symm]
    · simp [hnotes', hnotes, joining, NamespaceAnswer.joinStep?]

end Action

namespace ProcessContext

open Periscope.Action

variable {system : NamespaceSystem σ} {c c' : ProcessContext} {failure : Option CrawlError}
  {s s' : Session (σ × List NamespaceAnswer)} {more : List NamespaceAnswer}

/-- What a context says of a kind that was left out. -/
def missed (c : ProcessContext) (kind : NamespaceKind) : List SkippedNamespace :=
  c.skipped.filter (·.kind = kind)

/-- What a context says of a kind that was joined. -/
def joined (c : ProcessContext) (kind : NamespaceKind) : List NamespaceKind :=
  c.entered.filter (· = kind)

/-- Detaching is told nothing about joining. -/
theorem detach_aside (hc : c.Attached) : Aside pid (detach system.listened c) := by
  have howner := (hc.paired.enteredHandles hc.entered_sublist.subset).2
  rw [detach, if_neg (not_not.mpr hc.state_eq)]
  refine (reenter_aside howner).bind fun failed => Aside.bind ?_ fun _ => ?_
  · unfold goHome
    split
    · refine Aside.bind (.of_silent fun _ => rfl) fun failure => ?_
      cases failure <;> exact .of_silent fun _ => rfl
    · exact .of_silent fun _ => rfl
  · refine Aside.bind (.of_silent fun _ => rfl) fun _ => (notices_aside _).bind fun _ => ?_
    refine Aside.bind (Aside.bind (closeHandles_aside _) fun _ => ?_) fun _ => ?_
    all_goals exact .of_silent fun _ => rfl

/-- What is on record about a kind: what was answered to the steps of joining it, and what the
context says of it. -/
structure Standing where
  /-- The answers to the steps. -/
  asked : List (JoinStep × Option IoError)
  /-- Whether both its namespaces are open. -/
  isOpen : Prop
  /-- How it was left out. -/
  missed : List SkippedNamespace
  /-- How often it was joined. -/
  joined : List NamespaceKind

/-- What is on record about a kind, given all notes. -/
def standing (c : ProcessContext) (notes : List NamespaceAnswer) (kind : NamespaceKind) :
    Standing :=
  { asked := joining c.pid kind notes
    isOpen := kind ∈ c.openKinds
    missed := c.missed kind
    joined := c.joined kind }

/-- Some kinds were treated in turn, each by a step of its own, until the mount namespace had to
be given up. -/
structure Treated (step : NamespaceKind → Standing → Standing → Prop)
    (stop : IoError → Standing → Standing → Prop) (kinds : List NamespaceKind)
    (failure : Option CrawlError) (before after : NamespaceKind → Standing) : Prop where
  /-- The record of other kinds is as before. -/
  others : ∀ kind, kind ∉ kinds → after kind = before kind
  /-- Each kind has taken its step. -/
  each : failure = none → ∀ kind ∈ kinds, step kind (before kind) (after kind)
  /-- Only the mount namespace is given up. -/
  stopped : ∀ reason, failure = some reason → .mnt ∈ kinds ∧
    ∃ cause, reason = .namespaceAttach .mnt cause ∧ stop cause (before .mnt) (after .mnt)

section Treated

variable {step : NamespaceKind → Standing → Standing → Prop}
  {stop : IoError → Standing → Standing → Prop} {rest : List NamespaceKind}
  {before between after : NamespaceKind → Standing}

private theorem Treated.nil : Treated step stop [] none before before := ⟨by simp, by simp, by simp⟩

/-- One kind is treated, and then others. -/
private theorem Treated.cons (h : Treated step stop rest failure between after)
    (hnotin : kind ∉ rest) (hothers : ∀ other, other ≠ kind → between other = before other)
    (hstep : step kind (before kind) (between kind)) :
    Treated step stop (kind :: rest) failure before after where
  others := by
    intro other hnone
    obtain ⟨hne, hnone⟩ : other ≠ kind ∧ other ∉ rest := by simpa using hnone
    rw [h.others other hnone, hothers other hne]
  each := by
    intro hfailure other hmem
    by_cases hne : other = kind
    · subst hne
      rwa [h.others other hnotin]
    · rw [← hothers other hne]
      exact h.each hfailure other ((List.mem_cons.mp hmem).resolve_left hne)
  stopped := by
    intro reason hreason
    obtain ⟨hmnt, hstop⟩ := h.stopped reason hreason
    rw [hothers .mnt fun heq => hnotin (heq ▸ hmnt)] at hstop
    exact ⟨List.mem_cons_of_mem _ hmnt, hstop⟩

/-- The mount namespace is given up at once. -/
private theorem Treated.giveUp {cause : IoError}
    (hothers : ∀ other, other ≠ .mnt → after other = before other)
    (hstop : stop cause (before .mnt) (after .mnt)) :
    Treated step stop (.mnt :: rest) (some (.namespaceAttach .mnt cause)) before after where
  others other hnone := hothers other fun heq => hnone (heq ▸ List.mem_cons_self)
  each := by simp
  stopped reason hreason :=
    ⟨List.mem_cons_self, cause, (Option.some.inj hreason).symm, hstop⟩

end Treated

/-- How the record of a kind goes on by opening its namespaces. -/
inductive OpenStep (kind : NamespaceKind) (before : Standing) : Standing → Prop where
  /-- It is left out because of the first refusal, and is not the mount namespace. -/
  | missed {asked : List (JoinStep × Option IoError)} {cause : IoError} (hkind : kind ≠ .mnt)
      (hverdict : JoinVerdict asked (some (.opening, cause))) :
      OpenStep kind before { before with
        asked := before.asked ++ asked, missed := before.missed ++ [⟨kind, .opening, cause⟩] }
  /-- Both its namespaces are open. -/
  | opened :
      OpenStep kind before { before with
        asked := before.asked ++ [(.openHost, none), (.openTarget, none)], isOpen := True }

/-- The first refusal to open the mount namespace. -/
def OpenStop (cause : IoError) (before after : Standing) : Prop :=
  ∃ asked, JoinVerdict asked (some (.opening, cause)) ∧ after.asked = before.asked ++ asked

/-- How the record of a kind goes on by entering its namespace. -/
inductive EnterStep (kind : NamespaceKind) (before : Standing) : Standing → Prop where
  /-- It is left out because that is refused, and is not the mount namespace. -/
  | missed {cause : IoError} (hkind : kind ≠ .mnt) :
      EnterStep kind before { before with
        asked := before.asked ++ [(.enterTarget, some cause)]
        missed := before.missed ++ [⟨kind, .entering, cause⟩] }
  /-- It is joined. -/
  | joined :
      EnterStep kind before { before with
        asked := before.asked ++ [(.enterTarget, none)], joined := before.joined ++ [kind] }

/-- The mount namespace must not be entered. -/
def EnterStop (cause : IoError) (before after : Standing) : Prop :=
  after.asked = before.asked ++ [(.enterTarget, some cause)]

/-- Opening the namespaces of different kinds takes a step for each of them in turn. -/
theorem openAll_treated {kinds : List NamespaceKind} (hnodup : kinds.Nodup)
    (h : openAll system.listened kinds c s = ((failure, c'), s')) :
    Treated OpenStep OpenStop kinds failure (standing c s.world.2) (standing c' s'.world.2) := by
  induction kinds generalizing c s with
  | nil =>
    obtain ⟨hout, rfl⟩ := Action.of_pure h
    obtain ⟨rfl, rfl⟩ := Prod.mk.inj hout
    exact .nil
  | cons kind rest ih =>
    obtain ⟨hnotin, hnodup⟩ := List.nodup_cons.mp hnodup
    obtain ⟨result, s₁, hpair, h⟩ := Action.of_bind h
    obtain ⟨hother, asked, hasked, ⟨cause, rfl, hverdict⟩ | ⟨⟨host, target⟩, rfl, rfl⟩⟩ :=
      openPair_told hpair
    · by_cases hmandatory : kind.isMandatory = true
      · simp only [if_pos hmandatory] at h
        obtain ⟨hout, rfl⟩ := Action.of_pure h
        obtain ⟨rfl, rfl⟩ := Prod.mk.inj hout
        obtain rfl := NamespaceKind.isMandatory_iff.mp hmandatory
        refine .giveUp (fun other hne => ?_) ⟨asked, hverdict, hasked⟩
        simp [standing, hother other hne]
      · simp only [if_neg hmandatory] at h
        obtain ⟨_, s₂, hnotice, h⟩ := Action.of_bind h
        obtain ⟨_, rfl⟩ := Prod.mk.inj hnotice
        have hkind : kind ≠ .mnt := fun heq => hmandatory (NamespaceKind.isMandatory_iff.mpr heq)
        refine (ih hnodup h).cons hnotin (fun other hne => ?_) ?_
        · simp [standing, Session.record, hother other hne, missed, openKinds, joined, hne.symm]
        · have hstep : OpenStep kind (standing c s.world.2 kind) _ := .missed hkind hverdict
          simpa [standing, Session.record, hasked, missed, openKinds, joined] using hstep
    · have hopen (other : NamespaceKind) :
          other ∈ (Pairs.insert kind host c.hostHandles).map Prod.fst ↔
            other = kind ∨ other ∈ c.hostHandles.map Prod.fst := Pairs.mem_keys_insert
      dsimp only at h
      refine (ih hnodup h).cons hnotin (fun other hne => ?_) ?_
      · simp [standing, hother other hne, missed, openKinds, joined, hopen, hne]
      · have hstep : OpenStep kind (standing c s.world.2 kind) _ := .opened
        simpa [standing, hasked, missed, openKinds, joined, hopen] using hstep

/-- Entering namespaces of different kinds takes a step for each of them in turn. -/
theorem enterAll_treated {handles : List Handle} (hnodup : (handles.map Handle.kind).Nodup)
    (h : enterAll system.listened handles c s = ((failure, c'), s'))
    (howner : ∀ handle ∈ handles, handle.owner = .process c.pid) :
    Treated EnterStep EnterStop (handles.map Handle.kind) failure (standing c s.world.2)
      (standing c' s'.world.2) := by
  induction handles generalizing c s with
  | nil =>
    obtain ⟨hout, rfl⟩ := Action.of_pure h
    obtain ⟨rfl, rfl⟩ := Prod.mk.inj hout
    exact .nil
  | cons handle rest ih =>
    obtain ⟨hnotin, hnodup⟩ := List.nodup_cons.mp hnodup
    obtain ⟨hhandle, hrest⟩ := List.forall_mem_cons.mp howner
    obtain ⟨refusal, s₁, henter, h⟩ := Action.of_bind h
    have hasked (other : NamespaceKind) : joining c.pid other s₁.world.2 =
        joining c.pid other s.world.2 ++
          if handle.kind = other then [(.enterTarget, refusal)] else [] := by
      rw [enterNamespace_told henter, joining_append]
      by_cases hkind : handle.kind = other <;>
        simp [joining, NamespaceAnswer.joinStep?, hhandle, hkind]
    cases refusal with
    | none =>
      dsimp only at h
      refine (ih hnodup h hrest).cons hnotin (fun other hne => ?_) ?_
      · simp [standing, hasked, missed, openKinds, joined, hne.symm]
      · have hstep : EnterStep handle.kind (standing c s.world.2 handle.kind) _ := .joined
        simpa [standing, hasked, missed, openKinds, joined] using hstep
    | some cause =>
      by_cases hmandatory : handle.kind.isMandatory = true
      · simp only [if_pos hmandatory] at h
        obtain ⟨hout, rfl⟩ := Action.of_pure h
        obtain ⟨rfl, rfl⟩ := Prod.mk.inj hout
        have hmnt := NamespaceKind.isMandatory_iff.mp hmandatory
        rw [List.map_cons, hmnt]
        refine .giveUp (fun other hne => ?_) ?_
        · simp [standing, hasked, hmnt, hne.symm]
        · simp [EnterStop, standing, hasked, hmnt]
      · simp only [if_neg hmandatory] at h
        have hkind : handle.kind ≠ .mnt := fun heq =>
          hmandatory (NamespaceKind.isMandatory_iff.mpr heq)
        refine (ih hnodup h hrest).cons hnotin (fun other hne => ?_) ?_
        · simp [standing, hasked, missed, openKinds, joined, hne.symm]
        · have hstep : EnterStep handle.kind (standing c s.world.2 handle.kind) _ :=
            @EnterStep.missed _ _ cause hkind
          simpa [standing, hasked, missed, openKinds, joined] using hstep

/-- A context says of a kind what joining it came to, and says it once. -/
structure Accounts (c : ProcessContext) (kind : NamespaceKind)
    (verdict : Option (JoinStage × IoError)) : Prop where
  /-- It is joined if nothing was refused. -/
  joined_eq : c.joined kind = if verdict.isNone then [kind] else []
  /-- It is left out if something was. -/
  missed_eq : c.missed kind = verdict.toList.map fun v => ⟨kind, v.1, v.2⟩

/-- Nothing is on record. -/
def Standing.blank : Standing := ⟨[], False, [], []⟩

/-- Opening a kind and then, if that went well, entering it comes to a verdict. -/
private theorem Standing.verdict {opened entered : Standing} (hopen : OpenStep kind .blank opened)
    (henter : opened.isOpen → EnterStep kind opened entered)
    (hleft : ¬opened.isOpen → entered = opened) :
    ∃ verdict, JoinVerdict entered.asked verdict ∧ (kind = .mnt → verdict = none) ∧
      entered.joined = (if verdict.isNone then [kind] else []) ∧
      entered.missed = verdict.toList.map fun v => ⟨kind, v.1, v.2⟩ := by
  cases hopen with
  | @missed asked cause hkind hverdict =>
    rw [hleft id]
    exact ⟨_, hverdict, fun heq => absurd heq hkind, rfl, rfl⟩
  | opened =>
    cases henter trivial with
    | @missed cause hkind => exact ⟨_, .unentered cause, fun heq => absurd heq hkind, rfl, rfl⟩
    | joined => exact ⟨_, .joined, fun _ => rfl, rfl, rfl⟩

/-- Looking for the directory is told nothing about joining. -/
private theorem captureDirectory_aside : Aside pid (captureDirectory system.listened) := by
  refine Aside.bind (.of_silent fun _ => rfl) fun answer => ?_
  cases answer <;> exact .of_silent fun _ => rfl

/-- What attaching a context for a process comes to, given all notes of a listener. -/
structure AttachTold (pid : Int32) (kinds : List NamespaceKind) (notes : List NamespaceAnswer)
    (failure : Option CrawlError) (c : ProcessContext) : Prop where
  /-- Without the mount namespace it succeeds. -/
  unasked : .mnt ∉ kinds → failure = none
  /-- With it, it succeeds or fails with the first refusal of it. -/
  mount : .mnt ∈ kinds → ∃ verdict, JoinVerdict (joining pid .mnt notes) verdict ∧
    failure = verdict.map fun v => .namespaceAttach .mnt v.2
  /-- If it succeeds each requested kind is joined or left out as it was answered. -/
  accounts : failure = none → ∀ kind ∈ kinds,
    ∃ verdict, JoinVerdict (joining pid kind notes) verdict ∧ c.Accounts kind verdict
  /-- Then nothing is said of other kinds. -/
  others : failure = none → ∀ kind, kind ∉ kinds → c.joined kind = [] ∧ c.missed kind = []

namespace AttachTold

variable {kinds openKinds : List NamespaceKind} {notes : List NamespaceAnswer}
  {opened : NamespaceKind → Standing} {reason : CrawlError}

/-- The mount namespace cannot be opened. -/
private theorem of_unopened (hpid : c.pid = pid)
    (hopened : Treated OpenStep OpenStop (NamespaceKind.joiningOrder kinds) (some reason)
      (fun _ => .blank) (standing c notes))
    (hmore : joining pid .mnt more = joining pid .mnt notes) :
    AttachTold pid kinds more (some reason) c' := by
  obtain ⟨hmnt, cause, rfl, asked, hverdict, hasked⟩ := hopened.stopped reason rfl
  replace hmnt := (NamespaceKind.mem_joiningOrder .mnt kinds).mp hmnt
  replace hasked : joining pid .mnt notes = asked := hpid ▸ hasked
  refine ⟨fun hnot => absurd hmnt hnot, fun _ => ⟨some (.opening, cause), ?_, rfl⟩, by simp,
    by simp⟩
  rwa [hmore, hasked]

variable (hopened : Treated OpenStep OpenStop (NamespaceKind.joiningOrder kinds) none
  (fun _ => .blank) opened) (hopen : ∀ kind, kind ∈ openKinds ↔ (opened kind).isOpen)
include hopened hopen

/-- Only what was requested is open. -/
private theorem mem_of_open (hkind : kind ∈ openKinds) : kind ∈ kinds := by
  by_contra hnot
  have hblank := hopened.others kind fun hmem =>
    hnot ((NamespaceKind.mem_joiningOrder kind kinds).mp hmem)
  rw [hopen, hblank] at hkind
  exact hkind

/-- All namespaces that were opened are entered or left out. -/
private theorem of_joined (hpid : c.pid = pid)
    (hentered : Treated EnterStep EnterStop openKinds none opened (standing c notes)) :
    AttachTold pid kinds notes none c := by
  have hverdict (kind : NamespaceKind) (hkind : kind ∈ kinds) :=
    Standing.verdict
      (hopened.each rfl kind ((NamespaceKind.mem_joiningOrder kind kinds).mpr hkind))
      (fun hisOpen => hentered.each rfl kind ((hopen kind).mpr hisOpen))
      (fun hclosed => hentered.others kind fun hmem => hclosed ((hopen kind).mp hmem))
  simp only [standing, hpid] at hverdict
  refine ⟨fun _ => rfl, fun hmnt => ?_, fun _ kind hkind => ?_, fun _ kind hkind => ?_⟩
  · obtain ⟨verdict, hverdict, hnone, _⟩ := hverdict .mnt hmnt
    obtain rfl := hnone rfl
    exact ⟨none, hverdict, rfl⟩
  · obtain ⟨verdict, hverdict, _, hjoined, hmissed⟩ := hverdict kind hkind
    exact ⟨verdict, hverdict, hjoined, hmissed⟩
  · have hunentered := hentered.others kind fun hmem => hkind (mem_of_open hopened hopen hmem)
    rw [hopened.others kind fun hmem => hkind ((NamespaceKind.mem_joiningOrder kind kinds).mp hmem)]
      at hunentered
    exact ⟨congrArg Standing.joined hunentered, congrArg Standing.missed hunentered⟩

/-- The mount namespace is opened and cannot be entered. -/
private theorem of_turnedBack (hpid : c.pid = pid)
    (hentered : Treated EnterStep EnterStop openKinds (some reason) opened (standing c notes))
    (hmore : joining pid .mnt more = joining pid .mnt notes) :
    AttachTold pid kinds more (some reason) c' := by
  obtain ⟨hmntOpen, cause, rfl, hasked⟩ := hentered.stopped reason rfl
  have hmnt := mem_of_open hopened hopen hmntOpen
  replace hasked : joining pid .mnt notes =
      (opened .mnt).asked ++ [(.enterTarget, some cause)] := hpid ▸ hasked
  refine ⟨fun hnot => absurd hmnt hnot, fun _ => ⟨some (.entering, cause), ?_, rfl⟩, by simp,
    by simp⟩
  have hstep := hopened.each rfl .mnt ((NamespaceKind.mem_joiningOrder .mnt kinds).mpr hmnt)
  rw [hmore, hasked]
  generalize opened .mnt = mount at hstep ⊢
  cases hstep with
  | missed hkind => exact absurd rfl hkind
  | opened => exact .unentered cause

end AttachTold

/-- Attaching a new context with a listener. -/
private theorem attach_told {kinds : List NamespaceKind} (hs : s.world.2 = [])
    (h : attach system.listened (new pid kinds) s = ((failure, c'), s')) :
    AttachTold pid kinds s'.world.2 failure c' := by
  have hfresh := new_fresh pid kinds
  have hnodup {kinds : List NamespaceKind} (h : Increasing kinds) : kinds.Nodup :=
    h.imp fun hlt heq => by simp [heq] at hlt
  rw [attach, if_neg (not_not.mpr hfresh.state_eq)] at h
  obtain ⟨home, s₁, hhome, h⟩ := Action.of_bind h
  obtain ⟨⟨stopped, c₁⟩, s₂, hopen, h⟩ := Action.of_bind h
  have hblank : standing { new pid kinds with homeDirectory := home } s₁.world.2 =
      fun _ => Standing.blank := by
    funext kind
    have hnone : joining pid kind s₁.world.2 = joining pid kind s.world.2 :=
      captureDirectory_aside.joining_eq hhome kind
    simp [standing, Standing.blank, new, missed, joined, openKinds, hnone, hs]
  obtain ⟨_, hcourse, _⟩ := openAll_course hopen (hfresh.withHome home).paired
    (by rw [(hfresh.withHome home).openKinds_eq]; exact hfresh.increasing)
  have hpid : c₁.pid = pid := by
    rw [hcourse.frame]
    rfl
  have hopened := openAll_treated (hnodup hfresh.increasing) hopen
  rw [hblank] at hopened
  cases stopped with
  | some reason =>
    obtain ⟨c₂, s₃, hclose, h⟩ := Action.of_bind h
    obtain ⟨hout, rfl⟩ := Action.of_pure h
    obtain ⟨rfl, rfl⟩ := Prod.mk.inj hout
    have hclosed : Aside pid (closeAll system.listened c₁) :=
      (closeHandles_aside _).bind fun _ => .of_silent fun _ => rfl
    exact .of_unopened hpid hopened (hclosed.joining_eq hclose .mnt)
  | none =>
    obtain ⟨_, s₃, hsuppress, h⟩ := Action.of_bind h
    obtain ⟨_, rfl⟩ := Prod.mk.inj hsuppress
    obtain ⟨⟨failed, c₂⟩, s₄, henter, h⟩ := Action.of_bind h
    have hkinds := hcourse.paired.targetKinds
    have hentered := enterAll_treated
      (hkinds ▸ hnodup hcourse.paired.increasing) henter fun handle hhandle => by
        obtain ⟨pair, hpair, rfl⟩ := List.mem_map.mp hhandle
        exact (hcourse.paired.target pair hpair).1
    rw [hkinds] at hentered
    obtain ⟨_, hcourse', _⟩ := enterAll_course henter
    have hpid' : c₂.pid = pid := by rw [hcourse'.frame, ← hpid]
    cases failed with
    | none =>
      obtain ⟨hout, rfl⟩ := Action.of_pure h
      obtain ⟨rfl, rfl⟩ := Prod.mk.inj hout
      exact .of_joined hopened (fun _ => .rfl) hpid' hentered
    | some reason =>
      obtain ⟨⟨lost, c₃⟩, s₅, hdetach, h⟩ := Action.of_bind h
      obtain ⟨hout, rfl⟩ := Action.of_pure h
      obtain ⟨rfl, rfl⟩ := Prod.mk.inj hout
      -- The mount namespace was not entered, so leaving the others cannot lose it.
      obtain ⟨hattached, _, hunentered⟩ := hcourse'.attached_of_fresh hcourse (hfresh.withHome home)
      obtain ⟨_, _, _, hdeparture, _, _⟩ := detach_course hdetach hattached.state_eq
      obtain rfl := hdeparture.lost_eq_none hattached (hunentered rfl)
      exact .of_turnedBack hopened (fun _ => .rfl) hpid' hentered
        ((detach_aside hattached).joining_eq hdetach .mnt)

/-- **Which namespaces are joined.** Whatever is requested and whatever the system answers: a new
context that is not asked to join the mount namespace is attached; one that is, is attached just
if the caller's mount namespace is opened and the target's is opened and entered, and else fails
with the first refusal of these, and never with the loss of a namespace of the caller. If it is
attached, each requested kind is joined once or left out once: left out with opening if the
caller's or the target's namespace could not be opened, and with entering if both were opened and
the target's could not be entered. A context that was used is refused and stays as it is. The
answers are those that a listener notes, who disturbs nothing. -/
theorem attach_verdicts (system : NamespaceSystem σ) (pid : Int32) (kinds : List NamespaceKind)
    (s : Session σ) :
    let heard := attach system.listened (new pid kinds) (s.inWorld (s.world, []))
    attach system (new pid kinds) s = (heard.1, heard.2.inWorld heard.2.world.1) ∧
      AttachTold pid kinds heard.2.world.2 heard.1.1 heard.1.2 ∧
      (∀ kind cause, heard.1.1 ≠ some (.namespaceRestore kind cause)) ∧
      ∀ used : ProcessContext, used.state ≠ .created →
        attach system used s = ((some (.config (.contextUsed used.pid)), used), s) := by
  intro heard
  have hheard : attach system.listened (new pid kinds) (s.inWorld (s.world, [])) =
      ((heard.1.1, heard.1.2), heard.2) := rfl
  have htold := attach_told rfl hheard
  have hnew : ProcessContext.Mirrors Eq (fun _ => True) (new pid kinds) (new pid kinds) :=
    ⟨rfl, .nil, .nil, fun _ _ => trivial⟩
  obtain ⟨⟨hfailure, hcontext⟩, hsession⟩ :=
    attach_mirrors (system.overheard_mirrors id) hnew s (s.inWorld (s.world, [])) rfl
  refine ⟨Prod.ext (Prod.ext hfailure hcontext.eq) hsession, htold, fun kind cause hrestore => ?_,
    fun used hused => attach_of_used hused⟩
  by_cases hmnt : .mnt ∈ kinds
  · obtain ⟨verdict, _, hverdict⟩ := htold.mount hmnt
    rw [hverdict] at hrestore
    cases verdict <;> simp at hrestore
  · rw [htold.unasked hmnt] at hrestore
    cases hrestore

end ProcessContext

end Periscope
