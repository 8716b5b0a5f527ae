import Periscope.Proofs.Namespace.Scopes

/-!
# Several contexts at once

The contexts of a program share one count of open scopes. It is always the number of the
contexts that are attached, and while one of them attaches, leaves or fails, the scopes of
all others stay open.
-/

namespace Periscope

variable {σ : Type} {system : NamespaceSystem σ} {s s' : Session σ} {trace : List Entry}

open ProcessContext

/-- The contexts of a program. -/
structure Roster where
  /-- The contexts that were created and not yet given up. -/
  contexts : List ProcessContext := []
  /-- Giving one up has ended the program. -/
  ended : Bool := false

/-- A call of a program with several contexts. -/
inductive RosterCall where
  /-- To create a context. -/
  | create (pid : Int32) (kinds : List NamespaceKind)
  /-- To attach or detach one. -/
  | call (index : Nat) (call : ContextCall)
  /-- To give one up. -/
  | drop (index : Nat)
  /-- To end a scope where none is open; where one is open this call is not made. -/
  | strayResume

namespace Roster

/-- Performs a call. Nothing is done with a context that is not there, nor by a program that
has ended. -/
def perform (system : NamespaceSystem σ) (roster : Roster) (call : RosterCall) : Action σ Roster :=
  if roster.ended then return roster
  else match call with
    | .create pid kinds =>
      return { roster with contexts := roster.contexts ++ [ProcessContext.new pid kinds] }
    | .call index call =>
      match roster.contexts[index]? with
      | none => return roster
      | some c => do
        let (_, c) ← c.perform system call
        return { roster with contexts := roster.contexts.set index c }
    | .drop index =>
      match roster.contexts[index]? with
      | none => return roster
      | some c => do
        let outcome ← (c.drop system).run
        return { contexts := roster.contexts.eraseIdx index, ended := !outcome.isOk }
    | .strayResume => do
      if (← get).depth = 0 then Action.resume
      return roster

/-- Performs calls in order. -/
def performAll (system : NamespaceSystem σ) : List RosterCall → Roster → Action σ Roster
  | [], roster => return roster
  | call :: rest, roster => do
    let roster ← roster.perform system call
    performAll system rest roster

/-- How many contexts are attached. -/
def attached (roster : Roster) : Nat := roster.contexts.countP isAttached

/-- The contexts that a call has nothing to do with. -/
def others (roster : Roster) : RosterCall → List ProcessContext
  | .call index _ => roster.contexts.eraseIdx index
  | .drop index => roster.contexts.eraseIdx index
  | _ => roster.contexts

/-- Between two calls there are as many scopes as attached contexts. -/
structure Balanced (roster : Roster) (s : Session σ) : Prop where
  /-- Each context is between two calls. -/
  atRest : ∀ c ∈ roster.contexts, c.AtRest
  /-- The scopes are counted right. -/
  depth_eq : s.depth = roster.attached

/-- What a call does to the scopes: the other contexts keep theirs at every moment, at most
one more is open, and each notice shows how many are. -/
structure Spares (s : Session σ) (others : Nat) (trace : List Entry) (s' : Session σ) : Prop where
  /-- What was done is written down. -/
  journal_eq : s'.journal = s.journal ++ trace
  /-- The scopes that are open at a moment. -/
  moment : ∀ front back, trace = front ++ back →
    others ≤ scopesOpen s.depth front ∧ scopesOpen s.depth front ≤ others + 1
  /-- Notices show the scopes of their moment. -/
  noticesFit : NoticesFit s.depth trace

variable {roster roster' : Roster} {call : RosterCall}

/-- The scopes before and after a call on a context. -/
theorem Spares.of_passes {before after : Bool} {others : Nat} (h : s.Passes before after trace s')
    (hdepth : s.depth = others + before.toNat) :
    Spares s others trace s' ∧ s'.depth = others + after.toNat ∧
      ∀ front back, trace = front ++ .resumed :: back → others < scopesOpen s.depth front := by
  obtain ⟨hcourse, held, held', hgains⟩ := h
  rw [hgains.depth_eq_scopesOpen, hdepth]
  refine ⟨⟨hgains.journal_eq, ?_, hgains.noticesFit⟩, hcourse.scopesOpen_eq others, ?_⟩
  · rintro front back rfl
    rw [hdepth]
    exact hcourse.moment others
  · rintro front back rfl
    exact hcourse.resumed others

/-- Doing nothing spares all but one. -/
theorem Spares.rest {others : Nat} (hle : others ≤ s.depth) (hlt : s.depth ≤ others + 1) :
    Spares s others [] s where
  journal_eq := by simp
  moment := by
    intro front back hnil
    obtain ⟨rfl, _⟩ := List.append_eq_nil_iff.mp hnil.symm
    exact ⟨hle, hlt⟩
  noticesFit := by simp [NoticesFit]

/-- Ending a scope where none is open opens and ends none. -/
theorem Spares.of_stray {u : Unit} (hclosed : s.depth = 0) (h : Action.resume s = (u, s')) :
    s'.depth = 0 ∧ Spares s 0 [.resumed] s' := by
  have hgains := Action.resume_gains h ∅
  refine ⟨by rw [hgains.depth_eq_scopesOpen, hclosed]; rfl, hgains.journal_eq, ?_,
    hgains.noticesFit⟩
  intro front back hsplit
  have hprefix : front <+: [.resumed] := ⟨back, hsplit.symm⟩
  obtain rfl | rfl : front = [] ∨ front = [.resumed] := by
    simpa [List.prefix_cons_iff] using hprefix
  all_goals simp [scopesOpen, hclosed, Entry.topic]

/-- Of the attached contexts one may be the one that is called. -/
theorem attached_eq {c : ProcessContext} {index : Nat} (h : roster.contexts[index]? = some c) :
    roster.attached =
      (roster.contexts.eraseIdx index).countP isAttached + c.isAttached.toNat := by
  obtain ⟨hindex, rfl⟩ := List.getElem?_eq_some_iff.mp h
  rw [attached, ← (List.getElem_cons_eraseIdx_perm hindex).countP_eq, List.countP_cons]
  cases roster.contexts[index].isAttached <;> simp

/-- Replacing a context leaves the others. -/
theorem attached_set {c : ProcessContext} {index : Nat} (hindex : index < roster.contexts.length) :
    attached { roster with contexts := roster.contexts.set index c } =
      (roster.contexts.eraseIdx index).countP isAttached + c.isAttached.toNat := by
  rw [attached, (List.set_perm_cons_eraseIdx hindex c).countP_eq, List.countP_cons]
  cases c.isAttached <;> simp

/-- At most one attached context is called. -/
theorem countP_others (roster : Roster) (call : RosterCall) :
    (roster.others call).countP isAttached ≤ roster.attached ∧
      roster.attached ≤ (roster.others call).countP isAttached + 1 := by
  have herase (index : Nat) : (roster.contexts.eraseIdx index).countP isAttached ≤ roster.attached ∧
      roster.attached ≤ (roster.contexts.eraseIdx index).countP isAttached + 1 := by
    cases hfound : roster.contexts[index]? with
    | none =>
      rw [List.eraseIdx_of_length_le (List.getElem?_eq_none_iff.mp hfound)]
      exact ⟨Nat.le_refl _, Nat.le_succ _⟩
    | some c =>
      rw [attached_eq hfound]
      exact ⟨Nat.le_add_right _ _, Nat.add_le_add_left (Bool.toNat_le _) _⟩
  cases call with
  | create => exact ⟨Nat.le_refl _, Nat.le_succ _⟩
  | call index => exact herase index
  | drop index => exact herase index
  | strayResume => exact ⟨Nat.le_refl _, Nat.le_succ _⟩

/-- A call that does nothing. -/
private theorem Balanced.rest (h : roster.Balanced s) (call : RosterCall) :
    ∃ trace, Spares s ((roster.others call).countP isAttached) trace s ∧
      (call ≠ .strayResume → ∀ front back, trace = front ++ .resumed :: back →
        (roster.others call).countP isAttached < scopesOpen s.depth front) := by
  obtain ⟨hle, hlt⟩ := roster.countP_others call
  exact ⟨[], .rest (h.depth_eq ▸ hle) (h.depth_eq ▸ hlt), by simp⟩

/-- A call keeps the scopes and the attached contexts equal in number, and it ends a scope only
where one of its own is open. -/
theorem Balanced.perform (h : roster.Balanced s)
    (hcall : roster.perform system call s = (roster', s')) :
    roster'.Balanced s' ∧
      ∃ trace, Spares s ((roster.others call).countP isAttached) trace s' ∧
        (call ≠ .strayResume → ∀ front back, trace = front ++ .resumed :: back →
          (roster.others call).countP isAttached < scopesOpen s.depth front) := by
  by_cases hended : roster.ended = true
  · unfold Roster.perform at hcall
    rw [if_pos hended] at hcall
    obtain ⟨rfl, rfl⟩ := Action.of_pure hcall
    exact ⟨h, h.rest call⟩
  unfold Roster.perform at hcall
  rw [if_neg hended] at hcall
  cases call with
  | create pid kinds =>
    obtain ⟨rfl, rfl⟩ := Action.of_pure hcall
    refine ⟨⟨?_, ?_⟩, h.rest _⟩
    · intro c hc
      rcases List.mem_append.mp hc with hc | hc
      · exact h.atRest c hc
      · rw [List.mem_singleton.mp hc]
        exact .new pid kinds
    · rw [h.depth_eq, attached, attached, List.countP_append]
      rfl
  | call index call =>
    cases hfound : roster.contexts[index]? with
    | none =>
      simp only [hfound] at hcall
      obtain ⟨rfl, rfl⟩ := Action.of_pure hcall
      exact ⟨h, h.rest _⟩
    | some c =>
      simp only [hfound] at hcall
      obtain ⟨⟨outcome, c'⟩, s₁, hperform, hcall⟩ := Action.of_bind hcall
      obtain ⟨rfl, rfl⟩ := Action.of_pure hcall
      obtain ⟨hindex, hget⟩ := List.getElem?_eq_some_iff.mp hfound
      obtain ⟨hrest, trace, hpasses⟩ :=
        (h.atRest c (hget ▸ List.getElem_mem hindex)).perform hperform
      obtain ⟨hspares, hdepth, hresumed⟩ :=
        Spares.of_passes hpasses (h.depth_eq.trans (attached_eq hfound))
      refine ⟨⟨?_, ?_⟩, trace, hspares, fun _ => hresumed⟩
      · intro other hother
        rcases List.mem_or_eq_of_mem_set hother with hother | rfl
        · exact h.atRest other hother
        · exact hrest
      · rw [hdepth, attached_set hindex]
  | drop index =>
    cases hfound : roster.contexts[index]? with
    | none =>
      simp only [hfound] at hcall
      obtain ⟨rfl, rfl⟩ := Action.of_pure hcall
      exact ⟨h, h.rest _⟩
    | some c =>
      simp only [hfound] at hcall
      obtain ⟨outcome, s₁, hdrop, hcall⟩ := Action.of_bind hcall
      obtain ⟨rfl, rfl⟩ := Action.of_pure hcall
      obtain ⟨hindex, hget⟩ := List.getElem?_eq_some_iff.mp hfound
      obtain ⟨trace, hpasses⟩ := (h.atRest c (hget ▸ List.getElem_mem hindex)).drop hdrop
      obtain ⟨hspares, hdepth, hresumed⟩ :=
        Spares.of_passes hpasses (h.depth_eq.trans (attached_eq hfound))
      refine ⟨⟨?_, hdepth⟩, trace, hspares, fun _ => hresumed⟩
      intro other hother
      exact h.atRest other (List.mem_of_mem_eraseIdx hother)
  | strayResume =>
    obtain ⟨s₀, s₁, hget, hcall⟩ := Action.of_bind hcall
    obtain ⟨rfl, rfl⟩ := Prod.mk.inj hget
    by_cases hclosed : s.depth = 0
    · rw [if_pos hclosed] at hcall
      obtain ⟨_, s₁, hresume, hcall⟩ := Action.of_bind hcall
      obtain ⟨rfl, rfl⟩ := Action.of_pure hcall
      obtain ⟨hdepth, hspares⟩ := Spares.of_stray hclosed hresume
      have hnone : (roster'.others .strayResume).countP isAttached = 0 := by
        rw [← hclosed, h.depth_eq]
        rfl
      refine ⟨⟨h.atRest, by rw [hdepth, ← h.depth_eq, hclosed]⟩, [.resumed], ?_, by simp⟩
      rwa [hnone]
    · rw [if_neg hclosed] at hcall
      obtain ⟨rfl, rfl⟩ := Action.of_pure hcall
      exact ⟨h, h.rest _⟩

/-- So do any calls. -/
theorem Balanced.performAll (h : roster.Balanced s) {calls : List RosterCall}
    (hcalls : performAll system calls roster s = (roster', s')) : roster'.Balanced s' := by
  induction calls generalizing roster s with
  | nil =>
    obtain ⟨rfl, rfl⟩ := Action.of_pure hcalls
    exact h
  | cons call rest ih =>
    obtain ⟨roster₁, s₁, hcall, hrest⟩ := Action.of_bind hcalls
    exact ih (h.perform hcall).1 hrest

/-- **Scopes and attached contexts.** Whatever contexts a program creates, attaches, detaches
and gives up, whatever fails on the way and however often a scope is ended that is not open:
there are always as many scopes as attached contexts, so that notices are suppressed just
while a context is attached. During each call the other contexts keep their scopes, and the
call ends no scope but one of its own that is open. -/
theorem scopes_count_attached (system : NamespaceSystem σ) (calls : List RosterCall)
    (s : Session σ) :
    let roster := (performAll system calls {} { s with depth := 0 }).1
    let s₁ := (performAll system calls {} { s with depth := 0 }).2
    s₁.depth = roster.attached ∧
      (0 < s₁.depth ↔ ∃ c ∈ roster.contexts, c.state = .attached) ∧
      ∀ call, let others := (roster.others call).countP isAttached
        ∃ trace, Spares s₁ others trace (roster.perform system call s₁).2 ∧
          (call ≠ .strayResume → ∀ front back, trace = front ++ .resumed :: back →
            others < scopesOpen s₁.depth front) := by
  intro roster s₁
  have hstart : Balanced {} { s with depth := 0 } := ⟨by simp, rfl⟩
  have hcalls : performAll system calls {} { s with depth := 0 } = (roster, s₁) := rfl
  have hbalanced : roster.Balanced s₁ := hstart.performAll hcalls
  refine ⟨hbalanced.depth_eq, ?_, fun call => (hbalanced.perform rfl).2⟩
  rw [hbalanced.depth_eq, attached, List.countP_pos_iff]
  simp [isAttached]

end Roster

end Periscope
