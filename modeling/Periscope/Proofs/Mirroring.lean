import Periscope.Proofs.Steps

/-!
# Programs that mirror each other

Two runs of a program are compared step by step through a relation between their sessions. If
each step keeps the relation and returns values that correspond, so does the whole. The
relation may say that one world knows more than the other, or that the sessions differ only in
what the program does not look at.
-/

namespace Periscope

variable {σ τ α β α' β' : Type} {R : Session σ → Session τ → Prop}

/-- Run in sessions that are related, two actions return values that correspond and leave
sessions that are related. -/
def Action.Mirrors (R : Session σ → Session τ → Prop) (V : α → β → Prop) (a : Action σ α)
    (b : Action τ β) : Prop :=
  ∀ s t, R s t → V (a s).1 (b t).1 ∧ R (a s).2 (b t).2

/-- Run in sessions that are related, two calls end in the same way and leave sessions that are
related. -/
def Call.Mirrors (R : Session σ → Session τ → Prop) (a : Call σ α) (b : Call τ α) : Prop :=
  ∀ s t, R s t → (a s).1 = (b t).1 ∧ R (a s).2 (b t).2

/-- A session in another world. -/
def Session.inWorld (s : Session σ) (world : τ) : Session τ :=
  { world
    depth := s.depth
    nextHandle := s.nextHandle
    samples := s.samples
    loading := s.loading
    journal := s.journal }

/-- The second session has notes beside the world of the first and is otherwise the same. -/
def Session.Beside {ν : Type} (s : Session σ) (t : Session (σ × List ν)) : Prop :=
  s = t.inWorld t.world.1

/-- Asks a world with notes beside it and leaves the notes alone. -/
def besideNotes {ν : Type} (ask : σ → α × σ) : σ × List ν → α × (σ × List ν) := fun w =>
  ((ask w.1).1, (ask w.1).2, w.2)

/-- Asks a world with notes beside it and notes the answer. -/
def noted {ν : Type} (toNote : α → ν) (ask : σ → α × σ) : σ × List ν → α × (σ × List ν) := fun w =>
  ((ask w.1).1, (ask w.1).2, w.2 ++ [toNote (ask w.1).1])

/-- The relation outlasts what the programs note, where handles may differ as `H` allows. -/
structure Session.Outlasts (R : Session σ → Session τ → Prop) (H : Handle → Handle → Prop) :
    Prop where
  /-- Both note the same. -/
  record : ∀ {s t}, R s t → ∀ entry, R (s.record entry) (t.record entry)
  /-- Both note the same about handles that correspond. -/
  recordHandle : ∀ {s t h h'}, R s t → H h h' → ∀ entry : Handle → Entry,
    R (s.record (entry h)) (t.record (entry h'))
  /-- Both tell the operator the same. -/
  notice : ∀ {s t}, R s t → ∀ n,
    R (s.record (.noticed n s.depth)) (t.record (.noticed n t.depth))
  /-- Both open a scope. -/
  suppress : ∀ {s t}, R s t →
    R ({ s with depth := s.depth + 1 }.record .suppressed)
      ({ t with depth := t.depth + 1 }.record .suppressed)
  /-- Both end a scope. -/
  resume : ∀ {s t}, R s t →
    R ({ s with depth := s.depth - 1 }.record .resumed)
      ({ t with depth := t.depth - 1 }.record .resumed)
  /-- Both number a handle. -/
  number : ∀ {s t}, R s t → ∀ owner kind,
    H ⟨s.nextHandle, owner, kind⟩ ⟨t.nextHandle, owner, kind⟩ ∧
      R { s with nextHandle := s.nextHandle + 1 } { t with nextHandle := t.nextHandle + 1 }

namespace Action.Mirrors

variable {V : α → β → Prop} {W : α' → β' → Prop} {H : Handle → Handle → Prop}

theorem pure {x : α} {y : β} (h : V x y) :
    Mirrors R V (pure x : Action σ α) (pure y : Action τ β) :=
  fun _ _ hst => ⟨h, hst⟩

/-- One action after another. -/
theorem bind {a : Action σ α} {b : Action τ β} {f : α → Action σ α'} {g : β → Action τ β'}
    (h : Mirrors R V a b) (hthen : ∀ x y, V x y → Mirrors R W (f x) (g y)) :
    Mirrors R W (a >>= f) (b >>= g) := by
  intro s t hst
  obtain ⟨hvalue, hleft⟩ := h s t hst
  exact hthen _ _ hvalue _ _ hleft

/-- One action after another, where the first ones return the same. -/
theorem bindEq {a : Action σ α} {b : Action τ α} {f : α → Action σ α'} {g : α → Action τ β'}
    (h : Mirrors R Eq a b) (hthen : ∀ x, Mirrors R W (f x) (g x)) :
    Mirrors R W (a >>= f) (b >>= g) :=
  h.bind fun x y hxy => by
    subst hxy
    exact hthen x

theorem record (hR : Session.Outlasts R H) (entry : Entry) :
    Mirrors R Eq (Action.record entry) (Action.record entry) :=
  fun _ _ hst => ⟨rfl, hR.record hst entry⟩

theorem recordHandle (hR : Session.Outlasts R H) {h h' : Handle} (hh : H h h')
    (entry : Handle → Entry) :
    Mirrors R Eq (Action.record (entry h)) (Action.record (entry h')) :=
  fun _ _ hst => ⟨rfl, hR.recordHandle hst hh entry⟩

theorem notice (hR : Session.Outlasts R H) (n : Notice) :
    Mirrors R Eq (Action.notice n) (Action.notice n) :=
  fun _ _ hst => ⟨rfl, hR.notice hst n⟩

theorem suppress (hR : Session.Outlasts R H) : Mirrors R Eq Action.suppress Action.suppress :=
  fun _ _ hst => ⟨rfl, hR.suppress hst⟩

theorem resume (hR : Session.Outlasts R H) : Mirrors R Eq Action.resume Action.resume :=
  fun _ _ hst => ⟨rfl, hR.resume hst⟩

variable {ν : Type}

/-- Notes beside the world are not seen. -/
theorem besideNotes (answer : σ → α × σ) :
    Mirrors (Session.Beside (ν := ν)) Eq (Action.ask answer)
      (Action.ask (besideNotes answer)) := by
  rintro s t rfl
  exact ⟨rfl, rfl⟩

/-- Nor is it seen that notes are taken. -/
theorem noted (toNote : α → ν) (answer : σ → α × σ) :
    Mirrors Session.Beside Eq (Action.ask answer) (Action.ask (noted toNote answer)) := by
  rintro s t rfl
  exact ⟨rfl, rfl⟩

end Action.Mirrors

/-- Whether notes are taken does not matter to the rest of a session. -/
theorem Session.Beside.outlasts {ν : Type} :
    Session.Outlasts (Session.Beside (σ := σ) (ν := ν)) Eq where
  record := by
    rintro s t rfl entry
    rfl
  recordHandle := by
    rintro s t h _ rfl rfl entry
    rfl
  notice := by
    rintro s t rfl n
    rfl
  suppress := by
    rintro s t rfl
    rfl
  resume := by
    rintro s t rfl
    rfl
  number := by
    rintro s t rfl owner kind
    exact ⟨rfl, rfl⟩

namespace Call.Mirrors

variable {V : α → β → Prop} {H : Handle → Handle → Prop}

/-- Calls that end at once in the same way. -/
theorem const (r : Except Halt α) :
    Mirrors R (ExceptT.mk (Pure.pure r) : Call σ α) (ExceptT.mk (Pure.pure r) : Call τ α) :=
  fun _ _ hst => ⟨rfl, hst⟩

theorem pure (x : α) : Mirrors R (pure x : Call σ α) (pure x : Call τ α) := const (.ok x)

theorem halt (h : Halt) : Mirrors R (halt h : Call σ α) (halt h : Call τ α) := const (.error h)

/-- One call after another. -/
theorem bind {a : Call σ α} {b : Call τ α} {f : α → Call σ α'} {g : α → Call τ α'}
    (h : Mirrors R a b) (hthen : ∀ x, Mirrors R (f x) (g x)) : Mirrors R (a >>= f) (b >>= g) := by
  intro s t hst
  obtain ⟨hends, hleft⟩ := h s t hst
  rw [bind_apply, bind_apply, ← hends]
  cases (a s).1 with
  | ok x => exact hthen x _ _ hleft
  | error cause => exact ⟨rfl, hleft⟩

/-- An action in front of a call. -/
theorem performBind {a : Action σ α} {b : Action τ β} {f : α → Call σ α'} {g : β → Call τ α'}
    (h : Action.Mirrors R V a b) (hthen : ∀ x y, V x y → Mirrors R (f x) (g y)) :
    Mirrors R (perform a >>= f) (perform b >>= g) := by
  intro s t hst
  obtain ⟨hvalue, hleft⟩ := h s t hst
  exact hthen _ _ hvalue _ _ hleft

/-- An action in front of a call, where both return the same. -/
theorem performBindEq {a : Action σ α} {b : Action τ α} {f : α → Call σ α'} {g : α → Call τ α'}
    (h : Action.Mirrors R Eq a b) (hthen : ∀ x, Mirrors R (f x) (g x)) :
    Mirrors R (perform a >>= f) (perform b >>= g) :=
  performBind h fun x y hxy => by
    subst hxy
    exact hthen x

theorem perform {a : Action σ α} {b : Action τ α} (h : Action.Mirrors R Eq a b) :
    Mirrors R (perform a) (perform b) := by
  intro s t hst
  obtain ⟨hvalue, hleft⟩ := h s t hst
  exact ⟨congrArg Except.ok hvalue, hleft⟩

theorem checked (x : Except Panic α) : Mirrors R (checked x : Call σ α) (checked x : Call τ α) := by
  cases x with
  | ok value => exact .pure value
  | error cause => exact .const _

/-- A question whose answer may be out of range. -/
theorem ask {answer : σ → Except Panic α × σ} {answer' : τ → Except Panic α × τ}
    (h : Action.Mirrors R Eq (Action.ask answer) (Action.ask answer')) :
    Mirrors R (ask answer) (ask answer') :=
  performBindEq h checked

/-- A call with a handler. -/
theorem tryCatch {a : Call σ α} {b : Call τ α} {f : Halt → Call σ α} {g : Halt → Call τ α}
    (h : Mirrors R a b) (hcatch : ∀ cause, Mirrors R (f cause) (g cause)) :
    Mirrors R (tryCatch a f) (tryCatch b g) := by
  intro s t hst
  obtain ⟨hends, hleft⟩ := h s t hst
  generalize hfirst : a s = out at hends hleft
  generalize hsecond : b t = out' at hends hleft
  obtain ⟨r, s₁⟩ := out
  obtain ⟨r', t₁⟩ := out'
  obtain rfl : r = r' := hends
  cases r with
  | ok x =>
    rw [tryCatch_of_ok hfirst, tryCatch_of_ok hsecond]
    exact ⟨rfl, hleft⟩
  | error cause =>
    rw [tryCatch_of_error hfirst, tryCatch_of_error hsecond]
    exact hcatch cause _ _ hleft

end Call.Mirrors

end Periscope
