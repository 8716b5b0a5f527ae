import Periscope.Proofs.Namespace.Custody

/-!
# The scopes in which notices are suppressed

A scope is opened when a context is attached and ended when it leaves, on whichever way.
How many scopes are open at a moment is told by the entries up to it, and every notice
shows that number.
-/

namespace Periscope

variable {σ : Type} {system : NamespaceSystem σ} {s s' : Session σ}
  {trace front back : List Entry}

/-- How many scopes are open after some entries, if so many were open before. -/
def scopesOpen (depth : Nat) (trace : List Entry) : Nat :=
  (scopeEntries trace).foldl
    (fun depth entry => if entry = .suppressed then depth + 1 else depth - 1) depth

theorem scopesOpen_append (depth : Nat) (first second : List Entry) :
    scopesOpen depth (first ++ second) = scopesOpen (scopesOpen depth first) second := by
  rw [scopesOpen, scopeEntries_append, List.foldl_append]
  rfl

/-- Entries about other things leave the scopes alone. -/
theorem scopesOpen_of_concerns {topics : List Entry.Topic} (depth : Nat)
    (h : Concerns trace topics) (htopics : .scope ∉ topics) : scopesOpen depth trace = depth := by
  rw [scopesOpen, h.scopeEntries_eq htopics]
  rfl

/-- The scopes of a session are those that its entries leave open. -/
theorem Session.Gains.depth_eq_scopesOpen {held held' : Finset Handle}
    (h : s.Gains held trace s' held') : s'.depth = scopesOpen s.depth trace :=
  Ledger.replay_depth h.replay_eq

/-- Each notice shows how many scopes were open when it was given. -/
def NoticesFit (depth : Nat) (trace : List Entry) : Prop :=
  ∀ front n shown back, trace = front ++ .noticed n shown :: back → shown = scopesOpen depth front

/-- Entries that account for the scopes have fitting notices. -/
theorem Session.Gains.noticesFit {held held' : Finset Handle} (h : s.Gains held trace s' held') :
    NoticesFit s.depth trace := by
  rintro front n shown back rfl
  have hreplay := h.replay_eq
  rw [Ledger.replay_append] at hreplay
  obtain ⟨m, hfront, hback⟩ := Option.bind_eq_some_iff.mp hreplay
  obtain ⟨_, hfits, _⟩ := Option.bind_eq_some_iff.mp hback
  simp only [Ledger.after, Option.ite_none_right_eq_some] at hfits
  rw [hfits.1, Ledger.replay_depth hfront]
  rfl

/-- Which scopes a call on a context opens and ends, given whether the context is attached
before and after it. -/
inductive ScopeCourse : Bool → Bool → List Entry → Prop where
  /-- The context stays as it was. -/
  | kept (attached : Bool) : ScopeCourse attached attached []
  /-- It is attached. -/
  | joined : ScopeCourse false true [.suppressed]
  /-- It has left. -/
  | left : ScopeCourse true false [.resumed]
  /-- It had to turn back. -/
  | turnedBack : ScopeCourse false false [.suppressed, .resumed]

namespace ScopeCourse

variable {before after : Bool}

/-- At each moment the scopes of the other contexts are open, and at most one more. -/
theorem moment (h : ScopeCourse before after (scopeEntries (front ++ back))) (others : Nat) :
    others ≤ scopesOpen (others + before.toNat) front ∧
      scopesOpen (others + before.toNat) front ≤ others + 1 := by
  have hprefix : scopeEntries front <+: scopeEntries (front ++ back) := by
    rw [scopeEntries_append]
    exact List.prefix_append _ _
  generalize scopeEntries (front ++ back) = entries at h hprefix
  unfold scopesOpen
  generalize scopeEntries front = reached at hprefix
  cases h with
  | kept attached =>
    obtain rfl := List.prefix_nil.mp hprefix
    cases before <;> simp
  | joined =>
    obtain rfl | rfl : reached = [] ∨ reached = [.suppressed] := by
      simpa [List.prefix_cons_iff] using hprefix
    all_goals simp
  | left =>
    obtain rfl | rfl : reached = [] ∨ reached = [.resumed] := by
      simpa [List.prefix_cons_iff] using hprefix
    all_goals simp
  | turnedBack =>
    obtain rfl | ⟨rest, rfl, rfl | rfl⟩ : reached = [] ∨ ∃ rest, reached = .suppressed :: rest ∧
        (rest = [] ∨ rest = [.resumed]) := by
      simpa [List.prefix_cons_iff] using hprefix
    all_goals simp

/-- After the call the other contexts have their scopes, and this one has its own while it is
attached. -/
theorem scopesOpen_eq (h : ScopeCourse before after (scopeEntries trace)) (others : Nat) :
    scopesOpen (others + before.toNat) trace = others + after.toNat := by
  unfold scopesOpen
  generalize scopeEntries trace = entries at h
  cases h <;> simp

/-- A scope is ended only where one of this context's own is open. -/
theorem resumed (h : ScopeCourse before after (scopeEntries (front ++ .resumed :: back)))
    (others : Nat) : others < scopesOpen (others + before.toNat) front := by
  have hentries : scopeEntries (front ++ .resumed :: back) =
      scopeEntries front ++ .resumed :: scopeEntries back := by
    simp [Entry.topic]
  rw [hentries] at h
  unfold scopesOpen
  generalize scopeEntries front = reached at h
  generalize hwhole : reached ++ .resumed :: scopeEntries back = entries at h
  cases h with
  | kept => simp at hwhole
  | joined => simp [List.append_eq_cons_iff] at hwhole
  | left =>
    obtain ⟨rfl, _⟩ : reached = [] ∧ scopeEntries back = [] := by
      simpa [List.append_eq_cons_iff] using hwhole
    simp
  | turnedBack =>
    obtain ⟨rest, rfl, hrest⟩ : ∃ rest, reached = .suppressed :: rest ∧
        [.resumed] = rest ++ .resumed :: scopeEntries back := by
      simpa [List.append_eq_cons_iff] using hwhole
    have hlength := congrArg List.length hrest
    simp only [List.length_append, List.length_cons, List.length_nil] at hlength
    obtain rfl : rest = [] := List.eq_nil_of_length_eq_zero (by omega)
    simp

end ScopeCourse

/-- A session comes to another by entries of which these scopes are opened and ended. -/
def Session.Passes (s : Session σ) (before after : Bool) (trace : List Entry)
    (s' : Session σ) : Prop :=
  ScopeCourse before after (scopeEntries trace) ∧ ∃ held held', s.Gains held trace s' held'

namespace ProcessContext

variable {c c' : ProcessContext} {failure lost : Option CrawlError} {attempts : List Attempt}
  {arriving homeward tail : List Entry}

/-- Leaving ends one scope and has nothing to do with workers. -/
theorem Departure.entries (h : Departure system c lost attempts homeward tail) :
    workerEntries (departureTrace attempts homeward tail) = [] ∧
      scopeEntries (departureTrace attempts homeward tail) = [.resumed] := by
  have hattempts := concerns_attempts attempts
  have hhomeward : Concerns homeward [.directory] := by
    rcases h.homeward_cases with rfl | ⟨path, _, _, rfl⟩ <;> simp [Concerns, Entry.topic]
  unfold departureTrace
  constructor
  · simp [hattempts.workerEntries_eq, hhomeward.workerEntries_eq, h.concerns.workerEntries_eq]
  · simp [hattempts.scopeEntries_eq, hhomeward.scopeEntries_eq, h.concerns.scopeEntries_eq,
      Entry.topic]

/-- Attaching leaves one scope open if it succeeds and none if it fails, and has nothing to
do with workers. -/
theorem Arrival.entries (h : Arrival system c failure c' arriving) :
    workerEntries arriving = [] ∧
      (failure = none → scopeEntries arriving = [.suppressed]) ∧
      (failure ≠ none →
        scopeEntries arriving = [] ∨ scopeEntries arriving = [.suppressed, .resumed]) := by
  cases h with
  | @unopened c₁ cause opening closing hopen hclose =>
    refine ⟨?_, by simp, fun _ => .inl ?_⟩
    · simp [hopen.concerns.workerEntries_eq, hclose.workerEntries_eq]
    · simp [hopen.concerns.scopeEntries_eq, hclose.scopeEntries_eq]
  | @joined c₁ _ opening attempts hopen henter =>
    have hattempts := concerns_attempts attempts
    refine ⟨?_, fun _ => ?_, by simp⟩
    · simp [hopen.concerns.workerEntries_eq, hattempts.workerEntries_eq]
    · simp [hopen.concerns.scopeEntries_eq, hattempts.scopeEntries_eq, Entry.topic]
  | @turnedBack c₁ c₂ cause opening attempts returns homeward tail hopen henter hreturn =>
    have hattempts := concerns_attempts attempts
    obtain ⟨hworkers, hscopes⟩ := hreturn.entries
    refine ⟨?_, by simp, fun _ => .inr ?_⟩
    · simp [hopen.concerns.workerEntries_eq, hattempts.workerEntries_eq, hworkers]
    · simp [hopen.concerns.scopeEntries_eq, hattempts.scopeEntries_eq, hscopes, Entry.topic]

/-- Whether a context is attached. -/
def isAttached (c : ProcessContext) : Bool := c.state = .attached

/-- A context between two calls. -/
inductive AtRest (c : ProcessContext) : Prop
  /-- It was not used. -/
  | unused (hfresh : c.Fresh)
  /-- It is attached and holds its handles. -/
  | attached (hattached : c.Attached) (hnodup : c.handles.Nodup)
  /-- It is through. -/
  | through (hstate : c.state = .detached)

theorem AtRest.new (pid : Int32) (kinds : List NamespaceKind) : (new pid kinds).AtRest :=
  .unused (new_fresh pid kinds)

/-- Detaching an attached context ends its scope. -/
private theorem detach_passes (hc : c.state = .attached) (hnodup : c.handles.Nodup)
    (h : c.detach system s = ((lost, c'), s')) :
    c'.AtRest ∧ ∃ trace, s.Passes true c'.isAttached trace s' := by
  obtain ⟨attempts, homeward, tail, hdeparture, rfl, hgains⟩ := detach_course h hc
  refine ⟨.through rfl, departureTrace attempts homeward tail, ?_, _, _,
    hgains c.handles.toFinset hnodup fun handle => List.mem_toFinset.mpr⟩
  rw [hdeparture.entries.2]
  exact .left

/-- Attaching a fresh context opens a scope, which stays open if it succeeds. -/
private theorem attach_passes (hc : c.Fresh)
    (h : c.attach system s = ((failure, c'), s')) :
    c'.AtRest ∧ ∃ trace, s.Passes false c'.isAttached trace s' := by
  obtain ⟨trace, harrival, hgains⟩ := attach_course h hc
  obtain ⟨hnodup, hgains⟩ := hgains ∅ s.sound_empty
  obtain ⟨_, hjoined, hfailed⟩ := harrival.entries
  cases failure with
  | none =>
    have hattached := harrival.attached (hc.withHome _)
    refine ⟨.attached hattached hnodup, trace, ?_, _, _, hgains⟩
    rw [hjoined rfl, isAttached, hattached.state_eq]
    exact .joined
  | some cause =>
    have hstate : c'.state = .detached := by cases harrival <;> rfl
    refine ⟨.through hstate, trace, ?_, _, _, hgains⟩
    rw [isAttached, hstate]
    rcases hfailed (by simp) with hnone | hboth
    · rw [hnone]
      exact .kept false
    · rw [hboth]
      exact .turnedBack

/-- A call on a context opens and ends its own scope only. -/
theorem AtRest.perform (hc : c.AtRest) {call : ContextCall} {outcome : Option CrawlError}
    (h : c.perform system call s = ((outcome, c'), s')) :
    c'.AtRest ∧ ∃ trace, s.Passes c.isAttached c'.isAttached trace s' := by
  cases perform_course h with
  | attach hstate hattach =>
    cases hc with
    | unused hfresh =>
      have hbefore : c.isAttached = false := by simp [isAttached, hstate]
      rw [hbefore]
      exact attach_passes hfresh hattach
    | attached hattached => simp [hattached.state_eq] at hstate
    | through hthrough => simp [hthrough] at hstate
  | detach hstate hdetach =>
    cases hc with
    | unused hfresh => simp [hfresh.state_eq] at hstate
    | attached hattached hnodup =>
      have hbefore : c.isAttached = true := by simp [isAttached, hstate]
      rw [hbefore]
      exact detach_passes hstate hnodup hdetach
    | through hthrough => simp [hthrough] at hstate
  | used => exact ⟨hc, [], .kept _, ∅, ∅, .refl _ _⟩
  | idle =>
    exact ⟨hc, [.noticed (.detachedWithoutAttach c.pid c.state) s.depth], .kept _, ∅, ∅,
      Action.notice_gains rfl ∅⟩

/-- Giving up a context ends its scope if it is attached. -/
theorem AtRest.drop (hc : c.AtRest) {outcome : Except Halt Unit}
    (h : c.drop system s = (outcome, s')) : ∃ trace, s.Passes c.isAttached false trace s' := by
  by_cases hstate : c.state = .attached
  · cases hc with
    | unused hfresh => simp [hfresh.state_eq] at hstate
    | through hthrough => simp [hthrough] at hstate
    | attached hattached hnodup =>
      have hbefore : c.isAttached = true := by simp [isAttached, hstate]
      generalize hdetach : c.detach system s = out
      obtain ⟨⟨lost, c'⟩, s₁⟩ := out
      obtain ⟨_, trace, hcourse, held, held', hgains⟩ := detach_passes hstate hnodup hdetach
      have hafter : c'.isAttached = false := by
        obtain ⟨_, _, _, _, rfl, _⟩ := detach_course hdetach hstate
        rfl
      rw [hafter] at hcourse
      rw [hbefore]
      rcases drop_of_attached hstate hdetach with ⟨_, hdrop⟩ | ⟨cause, _, hdrop⟩
      · obtain ⟨_, rfl⟩ := Prod.mk.inj (hdrop.symm.trans h)
        exact ⟨trace, hcourse, held, held', hgains⟩
      · obtain ⟨_, rfl⟩ := Prod.mk.inj (hdrop.symm.trans h)
        refine ⟨trace ++ [.noticed (.hostLost none cause) s₁.depth], ?_, held, held',
          hgains.trans (Action.notice_gains rfl held')⟩
        simpa [Entry.topic] using hcourse
  · obtain ⟨_, rfl⟩ := Prod.mk.inj ((drop_of_idle hstate).symm.trans h)
    have hbefore : c.isAttached = false := by simp [isAttached, hstate]
    rw [hbefore]
    exact ⟨[], .kept false, ∅, ∅, .refl _ _⟩

end ProcessContext

end Periscope
