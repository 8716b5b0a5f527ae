import Periscope.Isolation.Preloader
import Periscope.Proofs.Steps

/-!
# Hooks and what becomes of them

Hooks are started in their order, up to one that stops, and what becomes of that settles how far the
session is with them. If none stops, a child is tried behind them, and what goes wrong with it is
told and has no other effect. So loading the hooks is told by one equation.
-/

namespace Periscope.Preloader

variable {σ : Type} {hooks : List Hook}

/-- The hooks that are started: all up to the first one that stops. -/
def started : List Hook → List Hook
  | [] => []
  | hook :: rest => if hook.panics then [hook] else hook :: started rest

theorem started_prefix (hooks : List Hook) : started hooks <+: hooks := by
  induction hooks with
  | nil => exact List.prefix_rfl
  | cons hook rest ih =>
    rw [started]
    split
    · exact ⟨rest, rfl⟩
    · exact List.cons_prefix_cons.mpr ⟨rfl, ih⟩

theorem started_of_sound (h : ∀ hook ∈ hooks, hook.panics = false) : started hooks = hooks := by
  induction hooks with
  | nil => rfl
  | cons hook rest ih =>
    obtain ⟨hhook, hrest⟩ := List.forall_mem_cons.mp h
    rw [started, hhook, ih hrest]
    rfl

/-- What running hooks comes to: the first one that stops, stops the call. -/
def outcome (hooks : List Hook) : Except Halt Unit :=
  match hooks.find? (·.panics) with
  | none => .ok ()
  | some hook => .error (.panicked (.hook hook.name))

/-- Running hooks stops only at a hook that does. -/
theorem outcome_cases (hooks : List Hook) :
    (outcome hooks = .ok () ∧ ∀ hook ∈ hooks, hook.panics = false) ∨
      ∃ hook ∈ hooks, hook.panics = true ∧
        outcome hooks = .error (.panicked (.hook hook.name)) := by
  rw [outcome]
  cases hfirst : hooks.find? (·.panics) with
  | none => exact .inl ⟨rfl, by simpa using hfirst⟩
  | some hook =>
    have hpanics : hook.panics = true := List.find?_some hfirst
    exact .inr ⟨hook, List.mem_of_find?_eq_some hfirst, hpanics, rfl⟩

/-- The entries about the hooks that are started. -/
def startedTrace (hooks : List Hook) : List Entry :=
  (started hooks).map fun hook => .hookRan hook.name

/-- Running hooks notes those that are started and does nothing else. -/
theorem runHooks_apply (hooks : List Hook) (s : Session σ) :
    runHooks hooks s = (outcome hooks, { s with journal := s.journal ++ startedTrace hooks }) := by
  induction hooks generalizing s with
  | nil =>
    have hsame : s = { s with journal := s.journal ++ [] } := by rw [List.append_nil]
    exact Prod.ext rfl hsame
  | cons hook rest ih =>
    rw [runHooks, Call.perform_bind]
    cases hpanics : hook.panics with
    | true =>
      have houtcome : outcome (hook :: rest) = .error (.panicked (.hook hook.name)) := by
        simp [outcome, hpanics]
      rw [if_pos rfl, houtcome, startedTrace, started, if_pos hpanics]
      rfl
    | false =>
      have houtcome : outcome (hook :: rest) = outcome rest := by simp [outcome, hpanics]
      have hstarted : startedTrace (hook :: rest) = .hookRan hook.name :: startedTrace rest := by
        simp [startedTrace, started, hpanics]
      rw [if_neg Bool.false_ne_true, ih, houtcome, hstarted, List.append_cons]
      rfl

/-- The entries about a child that is tried in a session. -/
def childTrace (child : σ → ChildEnding × σ) (s : Session σ) : List Entry :=
  (child s.world).1.notice?.toList.map fun n => .noticed n s.depth

/-- Trying a child asks the world for it and tells what goes wrong. -/
theorem tryChild_apply (child : σ → ChildEnding × σ) (s : Session σ) :
    tryChild child s = ((), { s with
      world := (child s.world).2
      journal := s.journal ++ childTrace child s }) := by
  generalize htry : (tryChild child s : Unit × Session σ) = out
  obtain ⟨⟨⟩, s'⟩ := out
  obtain ⟨ending, s₁, hask, htell⟩ := Action.of_bind htry
  obtain ⟨rfl, rfl⟩ := Action.of_ask hask
  rw [childTrace]
  cases hnotice : (child s.world).1.notice? with
  | none =>
    rw [hnotice] at htell
    obtain ⟨_, rfl⟩ := Action.of_pure htell
    simp
  | some n =>
    rw [hnotice] at htell
    exact htell.symm

/-- The session behind hooks that are run for the first time. -/
def afterHooks (hooks : List Hook) (child : σ → ChildEnding × σ) (s : Session σ) : Session σ :=
  match outcome hooks with
  | .ok () =>
    { s with
      world := (child s.world).2
      loading := .loaded
      journal := s.journal ++ (startedTrace hooks ++ childTrace child s) }
  | .error _ => { s with loading := .poisoned, journal := s.journal ++ startedTrace hooks }

/-- Hooks are run the first time only; behind one that stopped none is run again. -/
theorem ensureLoaded_apply (hooks : List Hook) (child : σ → ChildEnding × σ) (s : Session σ) :
    ensureLoaded hooks child s = match s.loading with
      | .loaded => (.ok (), s)
      | .poisoned => (.error (.panicked .poisoned), s)
      | .fresh => (outcome hooks, afterHooks hooks child s) := by
  have hget : (get : Call σ (Session σ)) s = (.ok s, s) := rfl
  refine (Call.bind_of_ok _ hget).trans ?_
  cases s.loading with
  | loaded => rfl
  | poisoned => rfl
  | fresh =>
    have hspoil : (modify fun s => { s with loading := .poisoned } : Call σ Unit) s =
        (.ok (), { s with loading := .poisoned }) := rfl
    have hrun := runHooks_apply hooks { s with loading := .poisoned }
    refine (Call.bind_of_ok _ hspoil).trans ?_
    dsimp only
    rw [afterHooks]
    cases houtcome : outcome hooks with
    | ok =>
      rw [houtcome] at hrun
      refine (Call.bind_of_ok _ hrun).trans ?_
      rw [Call.perform_bind, tryChild_apply]
      simp only [childTrace, List.append_assoc]
      rfl
    | error halt =>
      rw [houtcome] at hrun
      exact Call.bind_of_error _ hrun

end Periscope.Preloader
