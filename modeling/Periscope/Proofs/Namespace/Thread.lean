import Mathlib.Logic.Function.Basic
import Periscope.Proofs.Namespace.Course

/-!
# Where the calling thread is

A thread is in one namespace of each kind and has a working directory. Opening a namespace
makes its handle lead there, entering it moves the thread, and everything else leaves the
thread where it is. Replaying the journal of a stay shows that attaching moves the thread
into the target's namespaces of just the entered kinds and that leaving brings it home.
-/

namespace Periscope

variable {σ ν : Type} {system : NamespaceSystem σ}

/-- Where a thread is and where handles lead. -/
structure Thread (ν : Type) where
  /-- The namespace of each kind the thread is in. -/
  inside : NamespaceKind → ν
  /-- The namespace behind a handle. -/
  behind : Handle → ν
  /-- The working directory: the mount namespace it was reached in, and the path. -/
  directory : ν × String

namespace Thread

variable {origin : Int32 → NamespaceKind → ν} {t home : Thread ν} {trace : List Entry}
  {attempts : List Attempt}

/-- The namespace that is opened for an owner; other processes stay where they are. -/
def opening (origin : Int32 → NamespaceKind → ν) (t : Thread ν) (kind : NamespaceKind) : Owner → ν
  | .caller => t.inside kind
  | .process pid => origin pid kind

/-- Where the thread is after an entry. Behind a mount namespace it is at the root. -/
def after (origin : Int32 → NamespaceKind → ν) (t : Thread ν) : Entry → Thread ν
  | .opened handle =>
    { t with behind := Function.update t.behind handle (t.opening origin handle.kind handle.owner) }
  | .entered handle =>
    { t with
      inside := Function.update t.inside handle.kind (t.behind handle)
      directory := if handle.kind = .mnt then (t.behind handle, "/") else t.directory }
  | .directoryChanged path => { t with directory := (t.inside .mnt, path) }
  | _ => t

/-- Where the thread is after several entries. -/
def replay (origin : Int32 → NamespaceKind → ν) (t : Thread ν) (trace : List Entry) : Thread ν :=
  trace.foldl (after origin) t

theorem replay_append (first second : List Entry) :
    t.replay origin (first ++ second) = (t.replay origin first).replay origin second :=
  List.foldl_append

theorem replay_cons (entry : Entry) (rest : List Entry) :
    t.replay origin (entry :: rest) = (t.after origin entry).replay origin rest := rfl

/-- The topics that leave a thread where it is, and handles where they lead. -/
def quietTopics : List Entry.Topic := [.closing, .scope, .notice, .work]

theorem after_of_quiet {entry : Entry} (h : entry.topic ∈ quietTopics) :
    t.after origin entry = t := by
  cases entry <;> first | rfl | simp [quietTopics, Entry.topic] at h

/-- Entries about other things leave the thread where it is. -/
theorem replay_of_quiet (h : Concerns trace quietTopics) : t.replay origin trace = t := by
  induction trace with
  | nil => rfl
  | cons entry rest ih =>
    obtain ⟨hentry, hrest⟩ := List.forall_mem_cons.mp h
    rw [replay_cons, after_of_quiet hentry, ih hrest]

/-- Opening namespaces leaves the thread where it is, and each new handle leads to the
namespace its owner is in. -/
theorem replay_opening (h : Concerns trace (.opening :: quietTopics)) :
    (t.replay origin trace).inside = t.inside ∧
      (t.replay origin trace).directory = t.directory ∧
      ∀ handle, .opened handle ∈ trace → (t.replay origin trace).behind handle =
        t.opening origin handle.kind handle.owner := by
  induction trace using List.reverseRecOn with
  | nil => simp [replay]
  | append_singleton rest entry ih =>
    obtain ⟨hrest, hentry⟩ := List.forall_mem_append.mp h
    obtain ⟨hinside, hdirectory, hbehind⟩ := ih hrest
    have hstill (handle : Handle) : (t.replay origin rest).opening origin handle.kind handle.owner =
        t.opening origin handle.kind handle.owner := by
      cases handle.owner <;> simp [opening, hinside]
    rw [replay_append]
    rcases List.mem_cons.mp (hentry entry (by simp)) with htopic | hquiet
    · cases entry <;> simp only [Entry.topic, reduceCtorEq] at htopic
      case opened given =>
        refine ⟨hinside, hdirectory, fun handle hopened => ?_⟩
        by_cases hsame : handle = given
        · subst hsame
          simpa [replay, after] using hstill handle
        · have hearlier : .opened handle ∈ rest := by simpa [hsame] using hopened
          simpa [replay, after, hsame] using hbehind handle hearlier
      case openFailed owner kind =>
        refine ⟨hinside, hdirectory, fun handle hopened => hbehind handle ?_⟩
        simpa using hopened
    · rw [replay_of_quiet (t := t.replay origin rest) (by simpa [Concerns] using hquiet)]
      refine ⟨hinside, hdirectory, fun handle hopened => hbehind handle ?_⟩
      refine (List.mem_append.mp hopened).resolve_right fun hlast => ?_
      rw [← List.mem_singleton.mp hlast] at hquiet
      simp [quietTopics, Entry.topic] at hquiet

/-- Entering namespaces does not change where handles lead. -/
theorem replay_attempts_behind :
    (t.replay origin (attempts.map Attempt.entry)).behind = t.behind := by
  induction attempts generalizing t with
  | nil => rfl
  | cons a rest ih =>
    rw [List.map_cons, replay_cons, ih]
    cases hfailure : a.failure <;> simp [Attempt.entry, hfailure, after]

/-- The thread stays in its namespace of a kind of which none was entered. -/
theorem replay_attempts_of_notMem {kind : NamespaceKind} (h : kind ∉ joinedKinds attempts) :
    (t.replay origin (attempts.map Attempt.entry)).inside kind = t.inside kind := by
  induction attempts generalizing t with
  | nil => rfl
  | cons a rest ih =>
    rw [List.map_cons, replay_cons]
    cases hfailure : a.failure with
    | none =>
      have hne : kind ≠ a.handle.kind ∧ kind ∉ joinedKinds rest := by
        simpa [joinedKinds, hfailure] using h
      rw [ih hne.2]
      simp [Attempt.entry, hfailure, after, hne.1]
    | some cause =>
      have hrest : kind ∉ joinedKinds rest := by simpa [joinedKinds, hfailure] using h
      rw [ih hrest]
      simp [Attempt.entry, hfailure, after]

/-- If the kinds are told apart, the thread is in every namespace that it entered. -/
theorem replay_attempts_of_mem (hnodup : (attempts.map fun a => a.handle.kind).Nodup)
    {a : Attempt} (ha : a ∈ attempts) (hjoined : a.failure = none) :
    (t.replay origin (attempts.map Attempt.entry)).inside a.handle.kind = t.behind a.handle := by
  induction attempts generalizing t with
  | nil => cases ha
  | cons first rest ih =>
    obtain ⟨hnotin, hnodup⟩ := List.nodup_cons.mp hnodup
    rw [List.map_cons, replay_cons]
    rcases List.mem_cons.mp ha with rfl | ha
    · rw [replay_attempts_of_notMem]
      · simp [Attempt.entry, hjoined, after]
      · intro hlater
        obtain ⟨b, hb, hkind⟩ := List.mem_map.mp hlater
        exact hnotin (List.mem_map.mpr ⟨b, (List.mem_filter.mp hb).1, hkind⟩)
    · rw [ih hnodup ha]
      cases hfailure : first.failure <;> simp [Attempt.entry, hfailure, after]

end Thread

/-- The kinds of which a namespace of an owner was tried to be entered, in order. -/
def triedKinds (owner : Owner) (trace : List Entry) : List NamespaceKind :=
  trace.filterMap fun entry => entry.tried?.bind fun handle =>
    if handle.owner = owner then some handle.kind else none

/-- The caller's namespace of a kind could not be entered. -/
def ReentryFailed (kind : NamespaceKind) (trace : List Entry) : Prop :=
  ∃ handle, .enterFailed handle ∈ trace ∧ handle.owner = .caller ∧ handle.kind = kind

section Tried

variable {trace first second : List Entry} {attempts : List Attempt} {owner : Owner}
  {kind : NamespaceKind} {topics : List Entry.Topic}

@[simp] theorem triedKinds_append :
    triedKinds owner (first ++ second) = triedKinds owner first ++ triedKinds owner second :=
  List.filterMap_append

/-- Without an attempt to enter a namespace no kind was tried. -/
theorem triedKinds_of_concerns (h : Concerns trace topics) (htopics : .entering ∉ topics) :
    triedKinds owner trace = [] := by
  refine List.filterMap_eq_nil_iff.mpr fun entry hentry => ?_
  have htopic := h entry hentry
  cases entry <;> first | rfl | exact absurd htopic htopics

/-- Attempts with one owner's namespaces are all counted for it. -/
theorem triedKinds_attempts (h : ∀ a ∈ attempts, a.handle.owner = owner) :
    triedKinds owner (attempts.map Attempt.entry) = attempts.map fun a => a.handle.kind := by
  induction attempts with
  | nil => rfl
  | cons a rest ih =>
    obtain ⟨ha, hrest⟩ := List.forall_mem_cons.mp h
    have hentry : a.entry.tried? = some a.handle := by
      cases hfailure : a.failure <;> simp [Attempt.entry, hfailure, Entry.tried?]
    simpa [triedKinds, hentry, ha] using ih hrest

/-- They are not counted for another owner. -/
theorem triedKinds_attempts_of_ne {other : Owner} (h : ∀ a ∈ attempts, a.handle.owner = owner)
    (hne : owner ≠ other) : triedKinds other (attempts.map Attempt.entry) = [] := by
  refine List.filterMap_eq_nil_iff.mpr fun entry hentry => ?_
  obtain ⟨a, ha, rfl⟩ := List.mem_map.mp hentry
  cases hfailure : a.failure <;>
    simp [Attempt.entry, hfailure, Entry.tried?, h a ha, hne]

theorem reentryFailed_append :
    ReentryFailed kind (first ++ second) ↔
      ReentryFailed kind first ∨ ReentryFailed kind second := by
  simp only [ReentryFailed, List.mem_append]
  grind

/-- Without an attempt to enter a namespace none failed. -/
theorem not_reentryFailed_of_concerns (h : Concerns trace topics) (htopics : .entering ∉ topics) :
    ¬ReentryFailed kind trace := by
  rintro ⟨handle, hfailed, _⟩
  exact htopics (h _ hfailed)

/-- Which attempts with the caller's namespaces failed. -/
theorem reentryFailed_attempts (h : ∀ a ∈ attempts, a.handle.owner = .caller) :
    ReentryFailed kind (attempts.map Attempt.entry) ↔
      ∃ a ∈ attempts, a.handle.kind = kind ∧ a.failure ≠ none := by
  constructor
  · rintro ⟨handle, hfailed, _, rfl⟩
    obtain ⟨a, ha, hentry⟩ := List.mem_map.mp hfailed
    cases hfailure : a.failure <;> simp [Attempt.entry, hfailure] at hentry
    exact ⟨a, ha, by rw [hentry], by simp [hfailure]⟩
  · rintro ⟨a, ha, rfl, hfailure⟩
    obtain ⟨cause, hcause⟩ := Option.ne_none_iff_exists'.mp hfailure
    exact ⟨a.handle, List.mem_map.mpr ⟨a, ha, by simp [Attempt.entry, hcause]⟩, h a ha, rfl⟩

/-- Attempts with another owner's namespaces do not count. -/
theorem not_reentryFailed_attempts (h : ∀ a ∈ attempts, a.handle.owner = owner)
    (howner : owner ≠ .caller) : ¬ReentryFailed kind (attempts.map Attempt.entry) := by
  rintro ⟨handle, hfailed, hcaller, _⟩
  obtain ⟨a, ha, hentry⟩ := List.mem_map.mp hfailed
  cases hfailure : a.failure <;> simp [Attempt.entry, hfailure] at hentry
  rw [← hentry, h a ha] at hcaller
  exact howner hcaller

end Tried

/-- The thread is back from a stay: of each kind it is in the namespace it came from, unless
this one could not be entered again, and in the directory it came from, unless the system
refuses to go there. The mount namespace is reported if it is lost. -/
structure CameBack (system : NamespaceSystem σ) (home : Thread ν) (path? : Option String)
    (lost : Option CrawlError) (trace : List Entry) (t : Thread ν) : Prop where
  /-- Nothing is left unless it cannot be entered again. -/
  inside : ∀ kind, t.inside kind = home.inside kind ∨ ReentryFailed kind trace
  /-- The mount namespace alone is reported. -/
  lost_iff : lost.isSome ↔ ReentryFailed .mnt trace
  /-- It is reported as such. -/
  lost_eq : ∀ failure, lost = some failure → ∃ cause, failure = .namespaceRestore .mnt cause
  /-- Unless the mount namespace is lost, the thread is where it came from. -/
  directory : ∀ path, lost = none → path? = some path →
    t.directory = (home.inside .mnt, path) ∨
      ∃ w cause depth, (system.changeDirectory path w).1 = some cause ∧
        .noticed (.directoryNotRestored cause) depth ∈ trace

/-- What happened before does not matter if no namespace of the caller failed there. -/
theorem CameBack.prepend {home t : Thread ν} {path? : Option String} {lost : Option CrawlError}
    {first second : List Entry} (h : CameBack system home path? lost second t)
    (hfirst : ∀ kind, ¬ReentryFailed kind first) :
    CameBack system home path? lost (first ++ second) t where
  inside := fun kind => (h.inside kind).imp_right fun hfailed =>
    reentryFailed_append.mpr (.inr hfailed)
  lost_iff := by rw [h.lost_iff, reentryFailed_append, or_iff_right (hfirst .mnt)]
  lost_eq := h.lost_eq
  directory := by
    intro path hnone hpath
    refine (h.directory path hnone hpath).imp_right ?_
    rintro ⟨w, cause, depth, hrefused, hnoticed⟩
    exact ⟨w, cause, depth, hrefused, List.mem_append_right _ hnoticed⟩

namespace ProcessContext

variable {c c₁ c' : ProcessContext} {failure lost : Option CrawlError}
  {attempts : List Attempt} {opening homeward tail : List Entry}
  {origin : Int32 → NamespaceKind → ν} {t home : Thread ν}

/-- Leaving tries just the caller's namespaces of the entered kinds, in order. -/
theorem Departure.attempts_kinds (h : Departure system c lost attempts homeward tail)
    (hc : c.Attached) :
    attempts.map (fun a => a.handle.kind) = c.entered ∧
      ∀ a ∈ attempts, a.handle.owner = .caller := by
  obtain ⟨hkinds, howner⟩ := hc.paired.enteredHandles hc.entered_sublist.subset
  rw [← h.tried] at hkinds howner
  rw [List.map_map] at hkinds
  exact ⟨hkinds, fun a ha => howner a.handle (List.mem_map_of_mem ha)⟩

/-- Apart from the attempts, leaving enters nothing. -/
theorem Departure.concerns_rest (h : Departure system c lost attempts homeward tail) :
    Concerns (homeward ++ .resumed :: tail) [.directory, .scope, .notice, .closing] := by
  refine Concerns.append ?_ (.cons (by simp [Entry.topic]) (h.concerns.mono (by simp)))
  rcases h.homeward_cases with rfl | ⟨path, _, _, rfl⟩ <;> simp [Concerns, Entry.topic]

/-- The kinds that leaving tries. -/
theorem Departure.triedKinds (h : Departure system c lost attempts homeward tail)
    (hc : c.Attached) :
    triedKinds .caller (departureTrace attempts homeward tail) = c.entered ∧
      ∀ pid, triedKinds (.process pid) (departureTrace attempts homeward tail) = [] := by
  obtain ⟨hkinds, howner⟩ := h.attempts_kinds hc
  refine ⟨?_, fun pid => ?_⟩
  · rw [departureTrace, triedKinds_append, triedKinds_attempts howner,
      triedKinds_of_concerns h.concerns_rest (by simp), List.append_nil, hkinds]
  · rw [departureTrace, triedKinds_append, triedKinds_attempts_of_ne howner (by simp),
      triedKinds_of_concerns h.concerns_rest (by simp), List.append_nil]

/-- Leaving fails for the kinds whose attempts failed. -/
theorem Departure.reentryFailed_iff (h : Departure system c lost attempts homeward tail)
    (hc : c.Attached) {kind : NamespaceKind} :
    ReentryFailed kind (departureTrace attempts homeward tail) ↔
      ∃ a ∈ attempts, a.handle.kind = kind ∧ a.failure ≠ none := by
  rw [departureTrace, reentryFailed_append, reentryFailed_attempts (h.attempts_kinds hc).2,
    or_iff_left (not_reentryFailed_of_concerns h.concerns_rest (by simp))]

/-- The mount namespace is reported just when it could not be entered again. -/
theorem Departure.lost_iff (h : Departure system c lost attempts homeward tail)
    (hc : c.Attached) :
    lost.isSome ↔ ReentryFailed .mnt (departureTrace attempts homeward tail) := by
  rw [h.reentryFailed_iff hc, h.lost_eq, Option.isSome_map, ← not_iff_not,
    Option.not_isSome_iff_eq_none, mountFailure_eq_none]
  simp

/-- If the caller's handles lead home and the thread is away only in the entered kinds, then
leaving brings it back. -/
theorem Departure.cameBack (origin : Int32 → NamespaceKind → ν)
    (h : Departure system c lost attempts homeward tail) (hc : c.Attached)
    (hbehind : ∀ handle ∈ c.enteredHandles, t.behind handle = home.inside handle.kind)
    (hout : ∀ kind, kind ∉ c.entered → t.inside kind = home.inside kind) :
    CameBack system home c.homeDirectory lost (departureTrace attempts homeward tail)
      (t.replay origin (departureTrace attempts homeward tail)) := by
  obtain ⟨hkinds, howner⟩ := h.attempts_kinds hc
  generalize htried : t.replay origin (attempts.map Attempt.entry) = t₁
  have hquiet : Concerns (.resumed :: tail) Thread.quietTopics :=
    .cons (by simp [Entry.topic, Thread.quietTopics])
      (h.concerns.mono (by simp [Thread.quietTopics]))
  have hend : t.replay origin (departureTrace attempts homeward tail) =
      t₁.replay origin homeward := by
    rw [departureTrace, Thread.replay_append, Thread.replay_append, htried,
      Thread.replay_of_quiet hquiet]
  have hinside : (t₁.replay origin homeward).inside = t₁.inside := by
    rcases h.homeward_cases with rfl | ⟨path, _, _, rfl⟩ <;> rfl
  have hback (kind : NamespaceKind) : t₁.inside kind = home.inside kind ∨
      ReentryFailed kind (departureTrace attempts homeward tail) := by
    by_cases hkind : kind ∈ c.entered
    · rw [← hkinds] at hkind
      obtain ⟨a, ha, rfl⟩ := List.mem_map.mp hkind
      cases hfailure : a.failure with
      | none =>
        have hnodup : (attempts.map fun a => a.handle.kind).Nodup := by
          rw [hkinds]
          refine (hc.paired.increasing.sublist hc.entered_sublist).imp fun hlt heq => ?_
          exact absurd (heq ▸ hlt) (Nat.lt_irrefl _)
        rw [← htried, Thread.replay_attempts_of_mem hnodup ha hfailure]
        exact .inl (hbehind _ (h.tried ▸ List.mem_map_of_mem ha))
      | some cause => exact .inr ((h.reentryFailed_iff hc).mpr ⟨a, ha, rfl, by simp [hfailure]⟩)
    · rw [← htried, Thread.replay_attempts_of_notMem]
      · exact .inl (hout kind hkind)
      · intro hjoined
        rw [← hkinds] at hkind
        exact hkind ((List.filter_sublist.map _).subset hjoined)
  rw [hend]
  refine ⟨fun kind => hinside ▸ hback kind, h.lost_iff hc, fun failure hfailure => ?_, ?_⟩
  · rw [h.lost_eq, Option.map_eq_some_iff] at hfailure
    obtain ⟨cause, _, rfl⟩ := hfailure
    exact ⟨cause, rfl⟩
  · intro path hnone hpath
    rcases h.home path hnone hpath with rfl | ⟨w, cause, depth, hrefused, hnoticed⟩
    · refine .inl ?_
      have hmnt := (hback .mnt).resolve_right fun hlater => by
        simpa [hnone] using (h.lost_iff hc).mpr hlater
      simp [Thread.replay, Thread.after, hmnt]
    · exact .inr ⟨w, cause, depth, hrefused, by simp [departureTrace, hnoticed]⟩

/-- The kinds are tried with the target's handles. -/
theorem EnterCourse.owner_eq
    (h : EnterCourse { c with state := .attached } (c.targetHandles.map Prod.snd) failure c'
      attempts) (hc : c.Paired) :
    ∀ a ∈ attempts, a.handle.owner = .process c.pid := by
  intro a ha
  obtain ⟨pair, hpair, hhandle⟩ :=
    List.mem_map.mp (h.handles_prefix.subset (List.mem_map_of_mem ha))
  rw [← hhandle]
  exact (hc.target pair hpair).1

/-- The handles lead to the target's and to the caller's namespaces, so the thread moves
into the target's of just the joined kinds and could go home. -/
theorem EnterCourse.moved (origin : Int32 → NamespaceKind → ν) (t : Thread ν) (hc : c.Fresh)
    (hopen : OpenCourse c c.requested none c₁ opening)
    (henter : EnterCourse { c₁ with state := .attached } (c₁.targetHandles.map Prod.snd) failure c'
      attempts) :
    (∀ kind, (t.replay origin (opening ++ .suppressed :: attempts.map Attempt.entry)).inside kind =
        if kind ∈ c'.entered then origin c.pid kind else t.inside kind) ∧
      ∀ handle ∈ c'.enteredHandles,
        (t.replay origin (opening ++ .suppressed :: attempts.map Attempt.entry)).behind handle =
          t.inside handle.kind := by
  have hquiet : Concerns opening (.opening :: Thread.quietTopics) :=
    hopen.concerns.mono (by simp [Thread.quietTopics])
  obtain ⟨hinside, _, hbehind⟩ :
      (t.replay origin opening).inside = t.inside ∧ _ ∧ _ := Thread.replay_opening hquiet
  have hopened := hopen.opened_of_fresh hc
  have hpaired := hopen.paired.withState .attached
  have hpid : c₁.pid = c.pid := by rw [hopen.frame]
  have hjoined : c'.entered = joinedKinds attempts := (henter.attached_of_fresh hopen hc).2.1
  have hnodup : (attempts.map fun a => a.handle.kind).Nodup := by
    refine (hpaired.increasing.sublist (henter.tried hpaired).sublist).imp fun hlt heq => ?_
    exact absurd (heq ▸ hlt) (Nat.lt_irrefl _)
  rw [Thread.replay_append, Thread.replay_cons, Thread.after_of_quiet
    (by simp [Entry.topic, Thread.quietTopics]), Thread.replay_attempts_behind]
  refine ⟨fun kind => ?_, fun handle hhandle => ?_⟩
  · by_cases hkind : kind ∈ c'.entered
    · rw [if_pos hkind]
      rw [hjoined] at hkind
      obtain ⟨a, ha, rfl⟩ := List.mem_map.mp hkind
      obtain ⟨ha, hnone⟩ := List.mem_filter.mp ha
      rw [Thread.replay_attempts_of_mem hnodup ha (by simpa using hnone), hbehind,
        henter.owner_eq hopen.paired a ha, hpid]
      · rfl
      · exact hopened _ (List.mem_append_right _
          (henter.handles_prefix.subset (List.mem_map_of_mem ha)))
    · rw [if_neg hkind, Thread.replay_attempts_of_notMem (hjoined ▸ hkind), hinside]
  · obtain ⟨pair, hpair, rfl⟩ := mem_handles_of_entered hhandle
    have hhost : pair ∈ c₁.hostHandles := by
      rw [henter.frame] at hpair
      exact hpair
    rw [hbehind _ (hopened _ (List.mem_append_left _ (List.mem_map_of_mem hhost))),
      (hopen.paired.host pair hhost).1]
    rfl

/-- Attaching notes the directory once. -/
theorem Arrival.homeDirectory_eq {arriving : List Entry}
    (h : Arrival system c failure c' arriving) : c'.homeDirectory = c.homeDirectory := by
  cases h with
  | unopened hopen hclose => rw [released, hopen.frame]
  | joined hopen henter => rw [henter.frame, hopen.frame]
  | turnedBack hopen henter hreturn => rw [released, henter.frame, hopen.frame]

/-- Only the mount namespace makes attaching fail, and it is never lost in that. -/
theorem Arrival.failure_eq {arriving : List Entry} {cause : CrawlError}
    (h : Arrival system c (some cause) c' arriving) :
    ∃ source, cause = .namespaceAttach .mnt source := by
  cases h with
  | unopened => exact ⟨_, rfl⟩
  | turnedBack => exact ⟨_, rfl⟩

/-- All openings come before the first entering. -/
theorem Arrival.opens_first {arriving : List Entry} (h : Arrival system c failure c' arriving) :
    ∃ opening rest, arriving = opening ++ rest ∧ (∀ entry ∈ opening, entry.topic ≠ .entering) ∧
      ∀ entry ∈ rest, entry.topic ≠ .opening := by
  have hsplit {first second : List Entry} {topics topics' : List Entry.Topic}
      (hfirst : Concerns first topics) (htopics : .entering ∉ topics)
      (hsecond : Concerns second topics') (htopics' : .opening ∉ topics') :
      (∀ entry ∈ first, entry.topic ≠ .entering) ∧ ∀ entry ∈ second, entry.topic ≠ .opening :=
    ⟨fun entry hentry heq => htopics (heq ▸ hfirst entry hentry),
      fun entry hentry heq => htopics' (heq ▸ hsecond entry hentry)⟩
  cases h with
  | unopened hopen hclose =>
    exact ⟨_, [], (List.append_nil _).symm, hsplit (hopen.concerns.append (hclose.mono (by simp)))
      (by simp) (.nil []) (by simp)⟩
  | @joined c₁ c₂ opening attempts hopen henter =>
    have hrest : Concerns (.suppressed :: attempts.map Attempt.entry) [.scope, .entering] :=
      .cons (by simp [Entry.topic]) ((concerns_attempts attempts).mono (by simp))
    exact ⟨_, _, rfl, hsplit hopen.concerns (by simp) hrest (by simp)⟩
  | @turnedBack c₁ c₂ cause opening attempts returns homeward tail hopen henter hreturn =>
    have hrest : Concerns (.suppressed :: (attempts.map Attempt.entry ++
        departureTrace returns homeward tail)) [.entering, .directory, .scope, .notice, .closing] :=
      .cons (by simp [Entry.topic]) (((concerns_attempts attempts).mono (by simp)).append
        (((concerns_attempts returns).mono (by simp)).append
          (hreturn.concerns_rest.mono (by simp))))
    exact ⟨_, _, rfl, hsplit hopen.concerns (by simp) hrest (by simp)⟩

/-- Among kinds in joining order the mount namespace comes last. -/
theorem getLast?_of_increasing {kinds : List NamespaceKind} (h : Increasing kinds)
    (hmnt : .mnt ∈ kinds) : kinds.getLast? = some .mnt := by
  obtain ⟨before, later, rfl⟩ := List.append_of_mem hmnt
  have hlater : later = [] := by
    refine List.eq_nil_iff_forall_not_mem.mpr fun kind hkind => ?_
    have hlt := (List.pairwise_cons.mp (List.pairwise_append.mp h).2.1).1 kind hkind
    have hle := NamespaceKind.rank_le_mnt kind
    omega
  simp [hlater]

/-- The trace of opening and entering, up to where it goes on or turns back. -/
private theorem triedKinds_entering (hopen : OpenCourse c c.requested none c₁ opening)
    (henter : EnterCourse { c₁ with state := .attached } (c₁.targetHandles.map Prod.snd) failure c'
      attempts) :
    triedKinds (.process c.pid) (opening ++ .suppressed :: attempts.map Attempt.entry) =
        attempts.map (fun a => a.handle.kind) ∧
      triedKinds .caller (opening ++ .suppressed :: attempts.map Attempt.entry) = [] ∧
      ∀ kind, ¬ReentryFailed kind (opening ++ .suppressed :: attempts.map Attempt.entry) := by
  have hpid : c₁.pid = c.pid := by rw [hopen.frame]
  have howner : ∀ a ∈ attempts, a.handle.owner = .process c.pid :=
    hpid ▸ henter.owner_eq hopen.paired
  have hsuppressed : opening ++ .suppressed :: attempts.map Attempt.entry =
      (opening ++ [.suppressed]) ++ attempts.map Attempt.entry := by simp
  have hquiet : Concerns (opening ++ [.suppressed]) [.opening, .closing, .notice, .scope] :=
    (hopen.concerns.mono (by simp)).append (by simp [Concerns, Entry.topic])
  rw [hsuppressed]
  refine ⟨?_, ?_, fun kind => ?_⟩
  · rw [triedKinds_append, triedKinds_of_concerns hquiet (by simp), triedKinds_attempts howner,
      List.nil_append]
  · rw [triedKinds_append, triedKinds_of_concerns hquiet (by simp),
      triedKinds_attempts_of_ne howner (by simp), List.nil_append]
  · rw [reentryFailed_append, not_or]
    exact ⟨not_reentryFailed_of_concerns hquiet (by simp),
      not_reentryFailed_attempts howner (by simp)⟩

/-- What attaching tries: the target's namespaces in joining order, and the caller's of the
entered kinds only when it has to turn back. -/
theorem Arrival.tried {arriving : List Entry} (h : Arrival system c failure c' arriving)
    (hc : c.Fresh) :
    Increasing (triedKinds (.process c.pid) arriving) ∧
      triedKinds .caller arriving = if failure.isSome then c'.entered else [] := by
  cases h with
  | @unopened c₁ cause opening closing hopen hclose =>
    have hquiet : Concerns (opening ++ closing) [.opening, .closing, .notice] :=
      hopen.concerns.append (hclose.mono (by simp))
    have hentered : c₁.released.entered = [] := by
      rw [released, hopen.frame]
      exact hc.entered_eq
    rw [triedKinds_of_concerns hquiet (by simp), triedKinds_of_concerns hquiet (by simp), hentered]
    simp
  | @joined c₁ _ opening attempts hopen henter =>
    obtain ⟨htarget, hcaller, _⟩ := triedKinds_entering hopen henter
    rw [htarget, hcaller]
    have hprefix := henter.tried (hopen.paired.withState .attached)
    exact ⟨hopen.paired.increasing.sublist hprefix.sublist, by simp⟩
  | @turnedBack c₁ c₂ cause opening attempts returns homeward tail hopen henter hreturn =>
    have hattached := (henter.attached_of_fresh hopen hc).1
    obtain ⟨htarget, hcaller, _⟩ := triedKinds_entering hopen henter
    obtain ⟨hback, hother⟩ := hreturn.triedKinds hattached
    have hsplit (owner : Owner) : triedKinds owner (opening ++ .suppressed ::
        (attempts.map Attempt.entry ++ departureTrace returns homeward tail)) =
        triedKinds owner (opening ++ .suppressed :: attempts.map Attempt.entry) ++
          triedKinds owner (departureTrace returns homeward tail) := by
      rw [← triedKinds_append, List.append_assoc, List.cons_append]
    have hprefix := henter.tried (hopen.paired.withState .attached)
    rw [hsplit, hsplit, htarget, hcaller, hback, hother, List.append_nil, List.nil_append]
    exact ⟨hopen.paired.increasing.sublist hprefix.sublist, by simp [released]⟩

/-- After attaching, the thread is in the target's namespaces of the entered kinds only, and
the caller's handles lead home. -/
theorem Arrival.moved (origin : Int32 → NamespaceKind → ν) (t : Thread ν) {arriving : List Entry}
    (h : Arrival system c none c' arriving) (hc : c.Fresh) :
    c'.Attached ∧
      (∀ kind, (t.replay origin arriving).inside kind =
        if kind ∈ c'.entered then origin c.pid kind else t.inside kind) ∧
      ∀ handle ∈ c'.enteredHandles,
        (t.replay origin arriving).behind handle = t.inside handle.kind := by
  cases h with
  | joined hopen henter =>
    exact ⟨(henter.attached_of_fresh hopen hc).1, henter.moved origin t hc hopen⟩

/-- If attaching succeeds, no namespace of the caller failed. -/
theorem Arrival.not_reentryFailed {arriving : List Entry} (h : Arrival system c none c' arriving)
    (kind : NamespaceKind) : ¬ReentryFailed kind arriving := by
  cases h with
  | joined hopen henter => exact (triedKinds_entering hopen henter).2.2 kind

/-- The entered kinds are those whose namespaces of the target were entered. -/
theorem Arrival.entered {arriving : List Entry} (h : Arrival system c none c' arriving)
    (hc : c.Fresh) {kind : NamespaceKind} (hkind : kind ∈ c'.entered) :
    ∃ handle, .entered handle ∈ arriving ∧ handle.owner = .process c.pid ∧ handle.kind = kind := by
  cases h with
  | @joined c₁ _ opening attempts hopen henter =>
    rw [(henter.attached_of_fresh hopen hc).2.1] at hkind
    obtain ⟨a, ha, rfl⟩ := List.mem_map.mp hkind
    obtain ⟨ha, hjoined⟩ := List.mem_filter.mp ha
    have hentry : a.entry = .entered a.handle := by
      simp [Attempt.entry, Option.isNone_iff_eq_none.mp hjoined]
    have hpid : c₁.pid = c.pid := by rw [hopen.frame]
    refine ⟨a.handle, ?_, by rw [henter.owner_eq hopen.paired a ha, hpid], rfl⟩
    exact List.mem_append_right _ (List.mem_cons_of_mem _ (hentry ▸ List.mem_map_of_mem ha))

/-- If attaching fails, the thread did not move or it is back, also in the mount namespace. -/
theorem Arrival.back (origin : Int32 → NamespaceKind → ν) (t : Thread ν) {arriving : List Entry}
    {cause : CrawlError} (h : Arrival system c (some cause) c' arriving) (hc : c.Fresh) :
    ((t.replay origin arriving).inside = t.inside ∧
        (t.replay origin arriving).directory = t.directory) ∨
      CameBack system t c.homeDirectory none arriving (t.replay origin arriving) := by
  cases h with
  | @unopened c₁ cause opening closing hopen hclose =>
    have hquiet : Concerns (opening ++ closing) (.opening :: Thread.quietTopics) :=
      (hopen.concerns.mono (by simp [Thread.quietTopics])).append
        (hclose.mono (by simp [Thread.quietTopics]))
    obtain ⟨hinside, hdirectory, _⟩ :
        (t.replay origin (opening ++ closing)).inside = t.inside ∧ _ ∧ _ :=
      Thread.replay_opening hquiet
    exact .inl ⟨hinside, hdirectory⟩
  | @turnedBack c₁ c₂ cause opening attempts returns homeward tail hopen henter hreturn =>
    obtain ⟨hinside, hbehind⟩ := henter.moved origin t hc hopen
    obtain ⟨_, _, hfailed⟩ := triedKinds_entering hopen henter
    have hattached := (henter.attached_of_fresh hopen hc).1
    have hhome : c₂.homeDirectory = c.homeDirectory := by rw [henter.frame, hopen.frame]
    have hcame := hreturn.cameBack origin hattached hbehind fun kind hkind => by
      rw [hinside, if_neg hkind]
    rw [← Thread.replay_append, hhome] at hcame
    have hsplit : opening ++ .suppressed ::
        (attempts.map Attempt.entry ++ departureTrace returns homeward tail) =
        (opening ++ .suppressed :: attempts.map Attempt.entry) ++
          departureTrace returns homeward tail := by simp
    rw [hsplit]
    exact .inr (hcame.prepend hfailed)

/-- If attaching fails, the caller's mount namespace is not lost. -/
theorem Arrival.mount_kept {arriving : List Entry} {cause : CrawlError}
    (h : Arrival system c (some cause) c' arriving) (hc : c.Fresh) :
    ¬ReentryFailed .mnt arriving := by
  cases h with
  | @unopened c₁ cause opening closing hopen hclose =>
    have hquiet : Concerns (opening ++ closing) [.opening, .closing, .notice] :=
      hopen.concerns.append (hclose.mono (by simp))
    exact not_reentryFailed_of_concerns hquiet (by simp)
  | @turnedBack c₁ c₂ cause opening attempts returns homeward tail hopen henter hreturn =>
    obtain ⟨_, _, hfailed⟩ := triedKinds_entering hopen henter
    have hkept : ¬ReentryFailed .mnt (departureTrace returns homeward tail) := by
      rw [← hreturn.lost_iff (henter.attached_of_fresh hopen hc).1]
      simp
    have hsplit : opening ++ .suppressed ::
        (attempts.map Attempt.entry ++ departureTrace returns homeward tail) =
        (opening ++ .suppressed :: attempts.map Attempt.entry) ++
          departureTrace returns homeward tail := by simp
    rw [hsplit, reentryFailed_append, not_or]
    exact ⟨hfailed .mnt, hkept⟩

/-- Giving up an attached context does what detaching it does; then it may tell that the
mount namespace is lost and end the program. -/
theorem drop_journal (system : NamespaceSystem σ) (hc : c.state = .attached) (s : Session σ) :
    ∃ farewell, (c.drop system s).2.journal = (c.detach system s).2.journal ++ farewell ∧
      Concerns farewell [.notice] ∧
      (c.drop system s).1 =
        if (c.detach system s).1.1.isSome then .error .aborted else .ok () := by
  generalize hdetach : c.detach system s = out
  obtain ⟨⟨lost, c₂⟩, s₂⟩ := out
  rcases drop_of_attached hc hdetach with ⟨rfl, hdrop⟩ | ⟨cause, rfl, hdrop⟩
  · exact ⟨[], by simp [hdrop], .nil _, by simp [hdrop]⟩
  · exact ⟨_, by rw [hdrop]; rfl, by simp [Concerns, Entry.topic], by simp [hdrop]⟩

/-- **A stay and the way back.** Whatever is requested and answered, attaching opens all
namespaces before it enters the first and tries the target's in joining order, the mount
namespace last. If it succeeds, the thread is in the target's namespaces of just the entered
kinds; detaching and giving up then try the caller's of these kinds in the same order, none
left out, and the thread comes home. If it fails, the thread did not move or came home. -/
theorem thread_comes_home (system : NamespaceSystem σ) (origin : Int32 → NamespaceKind → ν)
    (t : Thread ν) (pid : Int32) (kinds : List NamespaceKind) (s : Session σ) :
    let failure := ((new pid kinds).attach system s).1.1
    let c := ((new pid kinds).attach system s).1.2
    let s₁ := ((new pid kinds).attach system s).2
    ∃ arriving, s₁.journal = s.journal ++ arriving ∧
      c.homeDirectory = (system.currentDirectory s.world).1.toOption ∧
      (∃ opening rest, arriving = opening ++ rest ∧ (∀ entry ∈ opening, entry.topic ≠ .entering) ∧
        ∀ entry ∈ rest, entry.topic ≠ .opening) ∧
      Increasing (triedKinds (.process pid) arriving) ∧
      (.mnt ∈ triedKinds (.process pid) arriving →
        (triedKinds (.process pid) arriving).getLast? = some .mnt) ∧
      (failure = none →
        (∀ kind, (t.replay origin arriving).inside kind =
          if kind ∈ c.entered then origin pid kind else t.inside kind) ∧
        triedKinds .caller arriving = [] ∧
        ∀ s₂ : Session σ, let lost := (c.detach system s₂).1.1
          ∃ leaving farewell, (c.detach system s₂).2.journal = s₂.journal ++ leaving ∧
            (c.drop system s₂).2.journal = s₂.journal ++ leaving ++ farewell ∧
            Concerns farewell [.notice] ∧
            (c.drop system s₂).1 = (if lost.isSome then .error .aborted else .ok ()) ∧
            triedKinds .caller leaving = c.entered ∧
            (∀ other, triedKinds (.process other) leaving = []) ∧
            CameBack system t c.homeDirectory lost leaving
              (t.replay origin (arriving ++ leaving))) ∧
      ∀ cause, failure = some cause →
        (∃ source, cause = .namespaceAttach .mnt source) ∧
        triedKinds .caller arriving = c.entered ∧
        (((t.replay origin arriving).inside = t.inside ∧
            (t.replay origin arriving).directory = t.directory) ∨
          CameBack system t c.homeDirectory none arriving (t.replay origin arriving)) := by
  intro failure c s₁
  have hfresh := new_fresh pid kinds
  obtain ⟨arriving, harrival, hgains⟩ :=
    attach_course (show (new pid kinds).attach system s = ((failure, c), s₁) from rfl) hfresh
  have hfresh' := hfresh.withHome (system.currentDirectory s.world).1.toOption
  obtain ⟨hnodup, harrived⟩ := hgains ∅ s.sound_empty
  obtain ⟨hincreasing, hcaller⟩ := harrival.tried hfresh'
  refine ⟨arriving, harrived.journal_eq, harrival.homeDirectory_eq, harrival.opens_first,
    hincreasing, getLast?_of_increasing hincreasing, ?_, ?_⟩
  · intro hnone
    rw [hnone] at harrival hcaller
    obtain ⟨hattached, hinside, hbehind⟩ := harrival.moved origin t hfresh'
    refine ⟨hinside, hcaller, fun s₂ => ?_⟩
    obtain ⟨attempts, homeward, tail, hdeparture, _, hgains'⟩ :=
      detach_course (show c.detach system s₂ = (((c.detach system s₂).1.1,
        (c.detach system s₂).1.2), (c.detach system s₂).2) from rfl) hattached.state_eq
    obtain ⟨farewell, hdrop, hfarewell, hend⟩ := drop_journal system hattached.state_eq s₂
    have hleft := hgains' c.handles.toFinset hnodup fun handle => List.mem_toFinset.mpr
    obtain ⟨hback, hother⟩ := hdeparture.triedKinds hattached
    refine ⟨_, farewell, hleft.journal_eq, ?_, hfarewell, hend, hback, hother, ?_⟩
    · rw [hdrop, hleft.journal_eq]
    · rw [Thread.replay_append]
      exact hdeparture.cameBack origin hattached hbehind fun kind hkind => by
        rw [hinside, if_neg hkind]
  · intro cause hsome
    rw [hsome] at harrival hcaller
    refine ⟨harrival.failure_eq, hcaller, ?_⟩
    rw [harrival.homeDirectory_eq]
    exact harrival.back origin t hfresh'

end ProcessContext

end Periscope
