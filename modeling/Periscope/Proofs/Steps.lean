import Periscope.Session

/-!
# Taking programs apart

A program that is made of two parts has passed through the end of the first, or was stopped
there. With these lemmas a run of a program is followed step by step, without opening the
definitions of its parts.
-/

namespace Periscope

variable {σ α β : Type} {s s₁ s' : Session σ}

namespace Action

/-- An action made of two has passed through the end of the first. -/
theorem of_bind {a : Action σ α} {f : α → Action σ β} {y : β}
    (h : (a >>= f) s = (y, s')) : ∃ x s₁, a s = (x, s₁) ∧ f x s₁ = (y, s') :=
  ⟨(a s).1, (a s).2, rfl, h⟩

/-- Returning a value changes nothing. -/
theorem of_pure {x y : α} (h : (pure x : Action σ α) s = (y, s')) : y = x ∧ s' = s := by
  obtain ⟨rfl, rfl⟩ := Prod.mk.inj h
  exact ⟨rfl, rfl⟩

/-- Asking the world changes only the world. -/
theorem of_ask {answer : σ → α × σ} {x : α} (h : ask answer s = (x, s')) :
    x = (answer s.world).1 ∧ s' = { s with world := (answer s.world).2 } := by
  obtain ⟨rfl, rfl⟩ := Prod.mk.inj h
  exact ⟨rfl, rfl⟩

end Action

namespace Call

/-- A call that does something and goes on. -/
theorem perform_bind (a : Action σ α) (f : α → Call σ β) (s : Session σ) :
    (perform a >>= f) s = f (a s).1 (a s).2 := rfl

/-- The end of the first of two calls decides whether the second is made. -/
theorem bind_apply (a : Call σ α) (f : α → Call σ β) (s : Session σ) :
    (a >>= f) s = ExceptT.bindCont f (a s).1 (a s).2 := rfl

/-- A call made of two has passed through the end of the first, or was halted by it. -/
theorem of_bind {a : Call σ α} {f : α → Call σ β} {r : Except Halt β}
    (h : (a >>= f) s = (r, s')) :
    (∃ x s₁, a s = (.ok x, s₁) ∧ f x s₁ = (r, s')) ∨
      ∃ halt, a s = (.error halt, s') ∧ r = .error halt := by
  rw [bind_apply] at h
  cases hfirst : (a s).1 with
  | ok x =>
    rw [hfirst] at h
    exact .inl ⟨x, (a s).2, Prod.ext hfirst rfl, h⟩
  | error halt =>
    rw [hfirst] at h
    obtain ⟨hr, hs⟩ := Prod.mk.inj h
    exact .inr ⟨halt, Prod.ext hfirst hs, hr.symm⟩

/-- What comes behind a call depends on what the call comes to. -/
theorem bind_congr {a b : Call σ α} (f : α → Call σ β) {t : Session σ} (h : a s = b t) :
    (a >>= f) s = (b >>= f) t := by
  rw [bind_apply, bind_apply, h]

/-- A call that came through goes on with what it came to. -/
theorem bind_of_ok {a : Call σ α} (f : α → Call σ β) {x : α} (h : a s = (.ok x, s₁)) :
    (a >>= f) s = f x s₁ := bind_congr f (show a s = (pure x : Call σ α) s₁ from h)

/-- A call that is halted does not go on. -/
theorem bind_of_error {a : Call σ α} (f : α → Call σ β) {cause : Halt}
    (h : a s = (.error cause, s₁)) : (a >>= f) s = (.error cause, s₁) :=
  bind_congr f (show a s = (halt cause : Call σ α) s₁ from h)

/-- An action in front of a call always comes to its end. -/
theorem of_perform {a : Action σ α} {f : α → Call σ β} {r : Except Halt β}
    (h : (perform a >>= f) s = (r, s')) : ∃ x s₁, a s = (x, s₁) ∧ f x s₁ = (r, s') :=
  ⟨(a s).1, (a s).2, rfl, h⟩

/-- Asking the world changes only the world; an answer out of range stops the call. -/
theorem of_ask {answer : σ → Except Panic α × σ} {r : Except Halt α}
    (h : ask answer s = (r, s')) :
    r = (answer s.world).1.mapError .panicked ∧
      s' = { s with world := (answer s.world).2 } := by
  obtain ⟨x, s₁, hask, h⟩ := of_perform h
  obtain ⟨rfl, rfl⟩ := Action.of_ask hask
  cases hanswer : (answer s.world).1 with
  | ok x =>
    rw [hanswer] at h
    obtain ⟨rfl, rfl⟩ := Prod.mk.inj h
    exact ⟨rfl, rfl⟩
  | error cause =>
    rw [hanswer] at h
    obtain ⟨rfl, rfl⟩ := Prod.mk.inj h
    exact ⟨rfl, rfl⟩

/-- Returning a value changes nothing. -/
theorem of_pure {x : α} {r : Except Halt α} (h : (pure x : Call σ α) s = (r, s')) :
    r = .ok x ∧ s' = s := by
  obtain ⟨rfl, rfl⟩ := Prod.mk.inj h
  exact ⟨rfl, rfl⟩

/-- Halting changes nothing. -/
theorem of_halt {cause : Halt} {r : Except Halt α} (h : (halt cause : Call σ α) s = (r, s')) :
    r = .error cause ∧ s' = s := by
  obtain ⟨rfl, rfl⟩ := Prod.mk.inj h
  exact ⟨rfl, rfl⟩

/-- A handler is passed over by a call that comes to its end. -/
theorem tryCatch_of_ok {a : Call σ α} {f : Halt → Call σ α} {x : α} (h : a s = (.ok x, s₁)) :
    (tryCatch a f) s = (.ok x, s₁) := by
  simp only [tryCatch, tryCatchThe, MonadExceptOf.tryCatch, ExceptT.tryCatch, ExceptT.mk, bind,
    StateT.bind, h]
  rfl

/-- A call that is halted goes on with the handler. -/
theorem tryCatch_of_error {a : Call σ α} {f : Halt → Call σ α} {cause : Halt}
    (h : a s = (.error cause, s₁)) : (tryCatch a f) s = f cause s₁ := by
  simp only [tryCatch, tryCatchThe, MonadExceptOf.tryCatch, ExceptT.tryCatch, ExceptT.mk, bind,
    StateT.bind, h]

/-- A call with a handler comes to its end or to that of the handler. -/
theorem of_tryCatch {a : Call σ α} {f : Halt → Call σ α} {r : Except Halt α}
    (h : (tryCatch a f) s = (r, s')) :
    (∃ x, a s = (.ok x, s') ∧ r = .ok x) ∨
      ∃ cause s₁, a s = (.error cause, s₁) ∧ f cause s₁ = (r, s') := by
  generalize hout : a s = out
  obtain ⟨first, s₁⟩ := out
  cases first with
  | ok x =>
    obtain ⟨rfl, rfl⟩ := Prod.mk.inj ((tryCatch_of_ok hout).symm.trans h)
    exact .inl ⟨x, rfl, rfl⟩
  | error cause => exact .inr ⟨cause, s₁, rfl, (tryCatch_of_error hout).symm.trans h⟩

end Call

end Periscope
