import Mathlib.Data.Finset.Basic
import Mathlib.Data.Finset.Lattice.Lemmas
import Periscope.Session

/-!
# What a journal accounts for

A ledger holds what the entries of a journal say about the program: how many scopes
suppress notices, which number the next handle gets and which handles are held. Replaying
entries on a ledger fails where they do not fit, so that a handle whose account is settled
was given back once and is not mentioned again.
-/

namespace Periscope

namespace Entry

/-- What an entry is about. -/
inductive Topic where
  /-- A namespace was opened, or could not be. -/
  | opening
  /-- A namespace was entered, or could not be. -/
  | entering
  /-- A handle was given back. -/
  | closing
  /-- The working directory was changed. -/
  | directory
  /-- A scope that suppresses notices was opened or ended. -/
  | scope
  /-- The operator was told something. -/
  | notice
  /-- Hooks, readers and workers. -/
  | work
  deriving DecidableEq

/-- The topic of an entry. -/
def topic : Entry → Topic
  | .opened _ => .opening
  | .openFailed _ _ => .opening
  | .entered _ => .entering
  | .enterFailed _ => .entering
  | .closed _ => .closing
  | .closeFailed _ => .closing
  | .directoryChanged _ => .directory
  | .suppressed => .scope
  | .resumed => .scope
  | .noticed _ _ => .notice
  | .hookRan _ => .work
  | .readerStarted => .work
  | .workerStarted => .work
  | .workerReaped => .work

/-- The handle that was tried to be entered. -/
def tried? : Entry → Option Handle
  | .entered handle => some handle
  | .enterFailed handle => some handle
  | _ => none

/-- The handle that was given back, with an error or not. -/
def returned? : Entry → Option Handle
  | .closed handle => some handle
  | .closeFailed handle => some handle
  | _ => none

/-- The handle that an entry mentions. -/
def handle? : Entry → Option Handle
  | .opened handle => some handle
  | entry => entry.tried?.or entry.returned?

end Entry

/-- The entries that open or end a scope in which notices are suppressed. -/
def scopeEntries (trace : List Entry) : List Entry := trace.filter fun entry => entry.topic = .scope

/-- The entries about workers. -/
def workerEntries (trace : List Entry) : List Entry :=
  trace.filter fun entry => entry = .workerStarted ∨ entry = .workerReaped

/-- All entries are about some of the given topics. -/
def Concerns (trace : List Entry) (topics : List Entry.Topic) : Prop :=
  ∀ entry ∈ trace, entry.topic ∈ topics

section Concerns

variable {trace first second : List Entry} {topics more : List Entry.Topic} {entry : Entry}

theorem Concerns.nil (topics : List Entry.Topic) : Concerns [] topics := by
  simp [Concerns]

theorem Concerns.cons (h : entry.topic ∈ topics) (htrace : Concerns trace topics) :
    Concerns (entry :: trace) topics :=
  List.forall_mem_cons.mpr ⟨h, htrace⟩

theorem Concerns.append (h₁ : Concerns first topics) (h₂ : Concerns second topics) :
    Concerns (first ++ second) topics :=
  List.forall_mem_append.mpr ⟨h₁, h₂⟩

theorem Concerns.mono (h : Concerns trace topics) (hsubset : topics ⊆ more) : Concerns trace more :=
  fun entry hentry => hsubset (h entry hentry)

@[simp] theorem scopeEntries_nil : scopeEntries [] = [] := rfl

@[simp] theorem workerEntries_nil : workerEntries [] = [] := rfl

@[simp] theorem scopeEntries_append :
    scopeEntries (first ++ second) = scopeEntries first ++ scopeEntries second :=
  List.filter_append ..

@[simp] theorem workerEntries_append :
    workerEntries (first ++ second) = workerEntries first ++ workerEntries second :=
  List.filter_append ..

@[simp] theorem scopeEntries_cons :
    scopeEntries (entry :: trace) =
      if entry.topic = .scope then entry :: scopeEntries trace else scopeEntries trace := by
  simp [scopeEntries, List.filter_cons]

@[simp] theorem workerEntries_cons :
    workerEntries (entry :: trace) =
      if entry = .workerStarted ∨ entry = .workerReaped then entry :: workerEntries trace
      else workerEntries trace := by
  simp [workerEntries, List.filter_cons]

/-- Entries about other things open and end no scope. -/
theorem Concerns.scopeEntries_eq (h : Concerns trace topics) (htopics : .scope ∉ topics) :
    scopeEntries trace = [] := by
  refine List.filter_eq_nil_iff.mpr fun entry hentry hscope => htopics ?_
  rw [← of_decide_eq_true hscope]
  exact h entry hentry

/-- Entries about other things are not about workers. -/
theorem Concerns.workerEntries_eq (h : Concerns trace topics) (htopics : .work ∉ topics) :
    workerEntries trace = [] := by
  refine List.filter_eq_nil_iff.mpr fun entry hentry hworker => htopics ?_
  have htopic : entry.topic = .work := by
    rcases of_decide_eq_true hworker with rfl | rfl <;> rfl
  rw [← htopic]
  exact h entry hentry

end Concerns

/-- What a journal says is the case. -/
structure Ledger where
  /-- How many scopes suppress notices. -/
  depth : Nat
  /-- The number of the next handle. -/
  nextHandle : Nat
  /-- The handles that were not yet given back. -/
  held : Finset Handle
  deriving DecidableEq

namespace Ledger

/-- The ledger after an entry, if the entry fits. Handles get their numbers in turn, only
held ones are entered and given back, and a notice shows how many scopes are open. -/
def after (l : Ledger) : Entry → Option Ledger
  | .opened handle =>
    if handle.id = l.nextHandle then
      some { l with nextHandle := l.nextHandle + 1, held := insert handle l.held }
    else none
  | .entered handle => if handle ∈ l.held then some l else none
  | .enterFailed handle => if handle ∈ l.held then some l else none
  | .closed handle => if handle ∈ l.held then some { l with held := l.held.erase handle } else none
  | .closeFailed handle =>
    if handle ∈ l.held then some { l with held := l.held.erase handle } else none
  | .suppressed => some { l with depth := l.depth + 1 }
  | .resumed => some { l with depth := l.depth - 1 }
  | .noticed _ depth => if depth = l.depth then some l else none
  | _ => some l

/-- The ledger after several entries, if all fit. -/
def replay (l : Ledger) : List Entry → Option Ledger
  | [] => some l
  | entry :: rest => (l.after entry).bind fun l => l.replay rest

private theorem replay_cons {l l' : Ledger} {entry : Entry} {rest : List Entry}
    (h : l.replay (entry :: rest) = some l') :
    ∃ m, l.after entry = some m ∧ m.replay rest = some l' :=
  Option.bind_eq_some_iff.mp h

/-- How many scopes are open is told by the entries about scopes. -/
theorem replay_depth {l l' : Ledger} {trace : List Entry} (h : l.replay trace = some l') :
    l'.depth = (scopeEntries trace).foldl
      (fun depth entry => if entry = .suppressed then depth + 1 else depth - 1) l.depth := by
  induction trace generalizing l with
  | nil =>
    obtain rfl : l = l' := Option.some.inj h
    rfl
  | cons entry rest ih =>
    obtain ⟨m, hm, hrest⟩ := replay_cons h
    rw [ih hrest]
    cases entry <;> simp only [after, Option.ite_none_right_eq_some, Option.some.injEq] at hm
    all_goals grind [scopeEntries, Entry.topic]

/-- Every held handle has been numbered. -/
def Sound (l : Ledger) : Prop := ∀ handle ∈ l.held, handle.id < l.nextHandle

/-- A handle was given out before and is no longer held. -/
def Settled (l : Ledger) (handle : Handle) : Prop :=
  handle.id < l.nextHandle ∧ handle ∉ l.held

/-- Replaying entries in two parts. -/
theorem replay_append (l : Ledger) (first second : List Entry) :
    l.replay (first ++ second) = (l.replay first).bind fun l => l.replay second := by
  induction first generalizing l with
  | nil => rfl
  | cons entry first ih =>
    cases h : l.after entry with
    | none => simp [replay, h]
    | some m => simp [replay, h, ih]

/-- Entries that all leave the ledger alone. -/
theorem replay_of_fits {l : Ledger} {trace : List Entry}
    (h : ∀ entry ∈ trace, l.after entry = some l) : l.replay trace = some l := by
  induction trace with
  | nil => rfl
  | cons entry rest ih =>
    obtain ⟨hentry, hrest⟩ := List.forall_mem_cons.mp h
    rw [replay, hentry, Option.bind_some, ih hrest]

/-- Handles are numbered when they are given out, so a ledger stays sound. -/
theorem Sound.after {l m : Ledger} {entry : Entry} (hl : l.Sound) (h : l.after entry = some m) :
    m.Sound := by
  intro handle hheld
  have hmono : handle ∈ l.held → handle.id < l.nextHandle := hl handle
  cases entry <;> simp only [Ledger.after, Option.ite_none_right_eq_some, Option.some.injEq] at h
  case opened given =>
    obtain ⟨hid, rfl⟩ := h
    rcases Finset.mem_insert.mp hheld with rfl | hold
    · simp only; omega
    · have := hmono hold; simp only; omega
  case closed given =>
    obtain ⟨_, rfl⟩ := h
    exact hmono (Finset.mem_of_mem_erase hheld)
  case closeFailed given =>
    obtain ⟨_, rfl⟩ := h
    exact hmono (Finset.mem_of_mem_erase hheld)
  all_goals grind

theorem Sound.replay {l l' : Ledger} {trace : List Entry} (hl : l.Sound)
    (h : l.replay trace = some l') : l'.Sound := by
  induction trace generalizing l with
  | nil =>
    obtain rfl : l = l' := Option.some.inj h
    exact hl
  | cons entry rest ih =>
    obtain ⟨m, hm, hrest⟩ := replay_cons h
    exact ih (hl.after hm) hrest

private theorem nextHandle_le_after {l m : Ledger} {entry : Entry} (h : l.after entry = some m) :
    l.nextHandle ≤ m.nextHandle := by
  cases entry <;> simp only [after, Option.ite_none_right_eq_some, Option.some.injEq] at h
  all_goals grind

/-- An opened handle was not numbered before. -/
theorem nextHandle_le_of_opened {l l' : Ledger} {handle : Handle} {trace : List Entry}
    (h : l.replay trace = some l') (hopened : .opened handle ∈ trace) :
    l.nextHandle ≤ handle.id := by
  induction trace generalizing l with
  | nil => simp at hopened
  | cons entry rest ih =>
    obtain ⟨m, hm, hrest⟩ := replay_cons h
    rcases List.mem_cons.mp hopened with rfl | hopened
    · simp only [after, Option.ite_none_right_eq_some] at hm
      exact hm.1.ge
    · exact (nextHandle_le_after hm).trans (ih hrest hopened)

/-- What is settled stays settled and is not mentioned. -/
theorem Settled.after {l m : Ledger} {handle : Handle} {entry : Entry}
    (hsettled : l.Settled handle) (h : l.after entry = some m) :
    entry.handle? ≠ some handle ∧ m.Settled handle := by
  obtain ⟨hid, hheld⟩ := hsettled
  cases entry <;> simp only [Ledger.after, Option.ite_none_right_eq_some, Option.some.injEq] at h
  case opened given =>
    obtain ⟨hnext, rfl⟩ := h
    have hne : given ≠ handle := by rintro rfl; omega
    refine ⟨by simp [Entry.handle?, hne], by simp only; omega, ?_⟩
    simp [hheld, hne.symm]
  all_goals
    simp only [Entry.handle?, Entry.tried?, Entry.returned?, Settled]
    grind

/-- A settled handle is not mentioned by any later entry. -/
theorem Settled.not_mentioned {l l' : Ledger} {handle : Handle} {trace : List Entry}
    (hsettled : l.Settled handle) (h : l.replay trace = some l') :
    ∀ entry ∈ trace, entry.handle? ≠ some handle := by
  induction trace generalizing l with
  | nil => simp
  | cons entry rest ih =>
    obtain ⟨m, hm, hrest⟩ := replay_cons h
    obtain ⟨hentry, hsettled'⟩ := hsettled.after hm
    intro e he
    rcases List.mem_cons.mp he with rfl | he
    · exact hentry
    · exact ih hsettled' hrest e he

/-- An entry leaves a held handle alone unless it gives the handle back, and then the
handle is settled. -/
theorem after_of_held {l m : Ledger} {handle : Handle} {entry : Entry} (hl : l.Sound)
    (hheld : handle ∈ l.held) (h : l.after entry = some m) :
    if entry.returned? = some handle then m.Settled handle else handle ∈ m.held := by
  have hid := hl handle hheld
  cases entry <;> simp only [Ledger.after, Option.ite_none_right_eq_some, Option.some.injEq] at h
  all_goals
    simp only [Entry.returned?, Settled]
    grind

end Ledger

/-- A handle was given back just once, and no later entry mentions it. -/
def GivenBackOnce (handle : Handle) (trace : List Entry) : Prop :=
  ∃ before closing after, trace = before ++ closing :: after ∧
    closing.returned? = some handle ∧
    (∀ entry ∈ before, entry.returned? ≠ some handle) ∧
    ∀ entry ∈ after, entry.handle? ≠ some handle

theorem GivenBackOnce.cons {handle : Handle} {entry : Entry} {trace : List Entry}
    (h : GivenBackOnce handle trace) (hentry : entry.returned? ≠ some handle) :
    GivenBackOnce handle (entry :: trace) := by
  obtain ⟨before, closing, after, rfl, hclosing, hbefore, hafter⟩ := h
  exact ⟨entry :: before, closing, after, rfl, hclosing,
    List.forall_mem_cons.mpr ⟨hentry, hbefore⟩, hafter⟩

namespace Ledger

/-- A held handle that is not held in the end was given back once on the way. -/
theorem givenBackOnce_of_held {l l' : Ledger} {handle : Handle} {trace : List Entry}
    (hl : l.Sound) (hheld : handle ∈ l.held) (h : l.replay trace = some l')
    (hend : handle ∉ l'.held) : GivenBackOnce handle trace := by
  induction trace generalizing l with
  | nil =>
    obtain rfl : l = l' := Option.some.inj h
    exact absurd hheld hend
  | cons entry rest ih =>
    obtain ⟨m, hm, hrest⟩ := replay_cons h
    have hstep := after_of_held hl hheld hm
    by_cases hreturned : entry.returned? = some handle
    · rw [if_pos hreturned] at hstep
      exact ⟨[], entry, rest, rfl, hreturned, by simp, hstep.not_mentioned hrest⟩
    · rw [if_neg hreturned] at hstep
      exact (ih (hl.after hm) hstep hrest).cons hreturned

/-- A handle that was opened and is not held in the end was given back once, and is not
mentioned after that. -/
theorem givenBackOnce_of_opened {l l' : Ledger} {handle : Handle} {trace : List Entry}
    (hl : l.Sound) (h : l.replay trace = some l') (hopened : .opened handle ∈ trace)
    (hend : handle ∉ l'.held) : GivenBackOnce handle trace := by
  induction trace generalizing l with
  | nil => simp at hopened
  | cons entry rest ih =>
    obtain ⟨m, hm, hrest⟩ := replay_cons h
    rcases List.mem_cons.mp hopened with rfl | hopened
    · have hheld : handle ∈ m.held := by
        simp only [after, Option.ite_none_right_eq_some, Option.some.injEq] at hm
        obtain ⟨_, rfl⟩ := hm
        exact Finset.mem_insert_self _ _
      exact (givenBackOnce_of_held (hl.after hm) hheld hrest hend).cons (by simp [Entry.returned?])
    · refine (ih (hl.after hm) hrest hopened).cons fun hreturned => ?_
      -- A handle that is given back was held, so it cannot be opened afterwards.
      have hheld : handle ∈ l.held := by
        cases entry <;> simp_all [Entry.returned?, after]
      have hsettled := after_of_held hl hheld hm
      rw [if_pos hreturned] at hsettled
      exact hsettled.not_mentioned hrest _ hopened rfl

end Ledger

variable {σ : Type}

/-- The ledger of a session, given the handles that are held. -/
def Session.ledger (s : Session σ) (held : Finset Handle) : Ledger :=
  ⟨s.depth, s.nextHandle, held⟩

/-- If no handles are held, none has a number yet to be given out. -/
theorem Session.sound_empty (s : Session σ) : (s.ledger ∅).Sound := by
  simp [Ledger.Sound, ledger]

/-- A session comes to another by adding entries to the journal, and these account for the
scopes, the numbers of handles and the handles that are held before and after. -/
structure Session.Gains (s : Session σ) (held : Finset Handle) (trace : List Entry)
    (s' : Session σ) (held' : Finset Handle) : Prop where
  /-- The entries stand at the end of the journal. -/
  journal_eq : s'.journal = s.journal ++ trace
  /-- Replaying them leads from the one ledger to the other. -/
  replay_eq : (s.ledger held).replay trace = some (s'.ledger held')

namespace Session.Gains

variable {s s₁ s₂ : Session σ} {held held₁ held₂ : Finset Handle} {first second : List Entry}

/-- Nothing happens. -/
theorem refl (s : Session σ) (held : Finset Handle) : s.Gains held [] s held :=
  ⟨by simp, rfl⟩

/-- One thing happens after another. -/
theorem trans (h₁ : s.Gains held first s₁ held₁) (h₂ : s₁.Gains held₁ second s₂ held₂) :
    s.Gains held (first ++ second) s₂ held₂ := by
  refine ⟨by rw [h₂.journal_eq, h₁.journal_eq, List.append_assoc], ?_⟩
  rw [Ledger.replay_append, h₁.replay_eq]
  exact h₂.replay_eq

/-- Entries that are about something else leave the scopes alone. -/
theorem depth_eq (h : s.Gains held first s₁ held₁) {topics : List Entry.Topic}
    (hquiet : Concerns first topics) (htopics : .scope ∉ topics) : s₁.depth = s.depth := by
  have hdepth := Ledger.replay_depth h.replay_eq
  rw [hquiet.scopeEntries_eq htopics] at hdepth
  exact hdepth

/-- An opened handle was not held before. -/
theorem not_held_of_opened (h : s.Gains held first s₁ held₁) (hs : (s.ledger held).Sound)
    {handle : Handle} (hopened : .opened handle ∈ first) : handle ∉ held := by
  intro hheld
  have hle : s.nextHandle ≤ handle.id := Ledger.nextHandle_le_of_opened h.replay_eq hopened
  exact absurd (hs handle hheld) (Nat.not_lt.mpr hle)

/-- Giving back handles that were opened leaves what was held before. -/
theorem union_sdiff_of_opened (h : s.Gains held first s₁ held₁) (hs : (s.ledger held).Sound)
    {handles : List Handle} (hopened : ∀ handle ∈ handles, .opened handle ∈ first) :
    (held ∪ handles.toFinset) \ handles.toFinset = held := by
  rw [Finset.union_sdiff_right, Finset.sdiff_eq_self_iff_disjoint, Finset.disjoint_right]
  intro handle hhandle
  exact h.not_held_of_opened hs (hopened handle (List.mem_toFinset.mp hhandle))

/-- Handles are numbered when they are given out. -/
theorem sound (h : s.Gains held first s₁ held₁) (hs : (s.ledger held).Sound) :
    (s₁.ledger held₁).Sound :=
  hs.replay h.replay_eq

end Session.Gains

end Periscope
