import Periscope.Namespace.Context
import Periscope.Proofs.Ledger
import Periscope.Proofs.Steps

/-!
# What single requests add to the journal

Every request about a namespace is written down with its outcome. The lemmas here say for
each request, and for runs of requests of one sort, which entries it adds and what they
do to the ledger, whatever the system answers.
-/

namespace Periscope

variable {σ : Type} {system : NamespaceSystem σ} {s s' : Session σ}

/-- An attempt to enter the namespace of a handle. -/
structure Attempt where
  /-- The handle. -/
  handle : Handle
  /-- Why the namespace was not entered. -/
  failure : Option IoError

/-- How an attempt is written down. -/
def Attempt.entry (a : Attempt) : Entry :=
  if a.failure.isSome then .enterFailed a.handle else .entered a.handle

theorem concerns_attempts (attempts : List Attempt) :
    Concerns (attempts.map Attempt.entry) [.entering] := by
  intro entry hentry
  obtain ⟨a, _, rfl⟩ := List.mem_map.mp hentry
  cases h : a.failure <;> simp [Attempt.entry, h, Entry.topic]

/-- The failure of the attempt with the mount namespace, if there was one. -/
def mountFailure (attempts : List Attempt) : Option IoError :=
  attempts.findSome? fun a => if a.handle.kind.isMandatory then a.failure else none

/-- The mount namespace did not fail if no attempt with it did. -/
theorem mountFailure_eq_none {attempts : List Attempt} :
    mountFailure attempts = none ↔ ∀ a ∈ attempts, a.handle.kind = .mnt → a.failure = none := by
  simp [mountFailure]

namespace Action

theorem ask_gains {answer : σ → α × σ} {x : α} (h : ask answer s = (x, s'))
    (held : Finset Handle) : s.Gains held [] s' held := by
  obtain ⟨_, rfl⟩ := of_ask h
  exact ⟨by simp, rfl⟩

/-- Writing down an entry that leaves the program's own state alone. -/
theorem record_gains {entry : Entry} {u : Unit} (h : record entry s = (u, s'))
    (held : Finset Handle) (hfits : (s.ledger held).after entry = some (s.ledger held)) :
    s.Gains held [entry] s' held := by
  obtain ⟨_, rfl⟩ := Prod.mk.inj h
  exact ⟨rfl, by simp only [Ledger.replay, hfits]; rfl⟩

theorem notice_gains {n : Notice} {u : Unit} (h : notice n s = (u, s'))
    (held : Finset Handle) : s.Gains held [.noticed n s.depth] s' held := by
  obtain ⟨_, rfl⟩ := Prod.mk.inj h
  exact ⟨rfl, by simp [Ledger.replay, Ledger.after, Session.ledger, Session.record]⟩

theorem suppress_gains {u : Unit} (h : suppress s = (u, s')) (held : Finset Handle) :
    s.Gains held [.suppressed] s' held := by
  obtain ⟨_, rfl⟩ := Prod.mk.inj h
  exact ⟨rfl, rfl⟩

theorem resume_gains {u : Unit} (h : resume s = (u, s')) (held : Finset Handle) :
    s.Gains held [.resumed] s' held := by
  obtain ⟨_, rfl⟩ := Prod.mk.inj h
  exact ⟨rfl, rfl⟩

/-- Opening a namespace gives out the next handle or none. -/
theorem openNamespace_cases {owner : Owner} {kind : NamespaceKind} {result : Except IoError Handle}
    (h : openNamespace system owner kind s = (result, s')) :
    (∃ cause, result = .error cause ∧
      ∀ held, s.Gains held [.openFailed owner kind] s' held) ∨
    (∃ handle, result = .ok handle ∧ handle = ⟨s.nextHandle, owner, kind⟩ ∧
      ∀ held, s.Gains held [.opened handle] s' (insert handle held)) := by
  obtain ⟨failure, s₁, hask, h⟩ := of_bind h
  obtain ⟨_, rfl⟩ := of_ask hask
  cases failure with
  | some cause =>
    obtain ⟨hresult, rfl⟩ := Prod.mk.inj h
    exact .inl ⟨cause, hresult.symm, fun held => ⟨rfl, rfl⟩⟩
  | none =>
    obtain ⟨hresult, rfl⟩ := Prod.mk.inj h
    refine .inr ⟨_, hresult.symm, rfl, fun held => ⟨rfl, ?_⟩⟩
    simp [Ledger.replay, Ledger.after, Session.ledger, Session.record]

/-- Entering is written down as it went. -/
theorem enterNamespace_gains {handle : Handle} {failure : Option IoError}
    (h : enterNamespace system handle s = (failure, s')) {held : Finset Handle}
    (hheld : handle ∈ held) : s.Gains held [Attempt.entry ⟨handle, failure⟩] s' held := by
  obtain ⟨answer, s₁, hask, h⟩ := of_bind h
  obtain ⟨_, s₂, hrecord, h⟩ := of_bind h
  obtain ⟨rfl, rfl⟩ := of_pure h
  refine (ask_gains hask held).trans (record_gains hrecord held ?_)
  cases failure <;> simp [Ledger.after, Session.ledger, hheld]

/-- Closing gives the handle back, and tells of a failure. -/
theorem closeNamespace_gains {handle : Handle} {u : Unit}
    (h : closeNamespace system handle s = (u, s')) :
    ∃ trace, Concerns trace [.closing, .notice] ∧
      ∀ held, handle ∈ held → s.Gains held trace s' (held.erase handle) := by
  obtain ⟨failure, s₁, hask, h⟩ := of_bind h
  obtain ⟨_, rfl⟩ := of_ask hask
  cases failure with
  | some cause =>
    obtain ⟨_, rfl⟩ := Prod.mk.inj h
    refine ⟨[.closeFailed handle, .noticed (.handleNotClosed handle.kind cause) s.depth],
      by simp [Concerns, Entry.topic], fun held hheld => ⟨by simp [Session.record], ?_⟩⟩
    simp [Ledger.replay, Ledger.after, Session.ledger, Session.record, hheld]
  | none =>
    obtain ⟨_, rfl⟩ := Prod.mk.inj h
    refine ⟨[.closed handle], by simp [Concerns, Entry.topic], fun held hheld => ⟨rfl, ?_⟩⟩
    simp [Ledger.replay, Ledger.after, Session.ledger, Session.record, hheld]

/-- Closing several handles gives back all of them. -/
theorem closeHandles_gains {handles : List Handle} {u : Unit}
    (h : closeHandles system handles s = (u, s')) :
    ∃ trace, Concerns trace [.closing, .notice] ∧
      ∀ held, handles.Nodup → (∀ handle ∈ handles, handle ∈ held) →
        s.Gains held trace s' (held \ handles.toFinset) := by
  induction handles generalizing s with
  | nil =>
    obtain ⟨_, rfl⟩ := of_pure h
    exact ⟨[], .nil _, fun held _ _ => by simpa using Session.Gains.refl s' held⟩
  | cons handle rest ih =>
    obtain ⟨_, s₁, hclose, h⟩ := of_bind h
    obtain ⟨first, hfirst, hgains₁⟩ := closeNamespace_gains hclose
    obtain ⟨second, hsecond, hgains₂⟩ := ih h
    refine ⟨first ++ second, hfirst.append hsecond, ?_⟩
    intro held hnodup hheld
    obtain ⟨hnotin, hnodup⟩ := List.nodup_cons.mp hnodup
    obtain ⟨hhead, hrest⟩ := List.forall_mem_cons.mp hheld
    have hstill : ∀ other ∈ rest, other ∈ held.erase handle := fun other hother =>
      Finset.mem_erase.mpr ⟨fun heq => hnotin (heq ▸ hother), hrest other hother⟩
    have hheld' : held.erase handle \ rest.toFinset = held \ (handle :: rest).toFinset := by
      ext other
      simp only [Finset.mem_sdiff, Finset.mem_erase, List.mem_toFinset, List.mem_cons]
      tauto
    exact hheld' ▸ (hgains₁ held hhead).trans (hgains₂ _ hnodup hstill)

theorem notices_gains {list : List Notice} {u : Unit} (h : notices list s = (u, s'))
    (held : Finset Handle) : s.Gains held (list.map fun n => .noticed n s.depth) s' held := by
  induction list generalizing s with
  | nil =>
    obtain ⟨_, rfl⟩ := of_pure h
    exact .refl _ held
  | cons n rest ih =>
    obtain ⟨_, s₁, hnotice, h⟩ := of_bind h
    have hgains := notice_gains hnotice held
    have hdepth : s₁.depth = s.depth :=
      hgains.depth_eq (.cons (by simp [Entry.topic]) (.nil [.notice])) (by simp)
    exact hgains.trans (hdepth ▸ ih h)

/-- Entering the caller's namespaces again tries every handle, whatever failed before. -/
theorem reenter_gains {handles : List Handle} {lost : Option IoError}
    {failures : List (NamespaceKind × IoError)}
    (h : reenter system handles s = ((lost, failures), s')) :
    ∃ attempts : List Attempt, attempts.map Attempt.handle = handles ∧
      lost = mountFailure attempts ∧
      ∀ held, (∀ handle ∈ handles, handle ∈ held) →
        s.Gains held (attempts.map Attempt.entry) s' held := by
  induction handles generalizing s lost failures with
  | nil =>
    obtain ⟨hout, rfl⟩ := of_pure h
    obtain ⟨rfl, _⟩ := Prod.mk.inj hout
    exact ⟨[], rfl, rfl, fun held _ => .refl _ held⟩
  | cons handle rest ih =>
    obtain ⟨failure, s₁, henter, h⟩ := of_bind h
    obtain ⟨⟨lost', failures'⟩, s₂, hrest, h⟩ := of_bind h
    obtain ⟨hout, rfl⟩ := of_pure h
    obtain ⟨attempts, hhandles, hlost, hgains⟩ := ih hrest
    refine ⟨⟨handle, failure⟩ :: attempts, by simp [hhandles], ?_, ?_⟩
    · simp only [mountFailure, List.findSome?_cons] at hlost ⊢
      rw [← hlost]
      split at hout <;> grind
    · intro held hheld
      obtain ⟨hhead, htail⟩ := List.forall_mem_cons.mp hheld
      exact (enterNamespace_gains henter hhead).trans (hgains held htail)

end Action

end Periscope
