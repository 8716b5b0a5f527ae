import Periscope.Proofs.Sampling.Continuity
import Periscope.Proofs.Sampling.Mirroring

/-!
# How long a call sleeps

A listener notes what the clock shows and for how long the program sleeps. A call for the
processor use of a container sleeps at most once: not if there is a sample of the container from
before, and otherwise between the two readings of its counters.
-/

namespace Periscope

variable {σ α β : Type}

/-- Something a call does about time. -/
inductive Moment where
  /-- It reads the clock. -/
  | clock (reading : Except Panic Instant)
  /-- It sleeps. -/
  | asleep (length : Duration)

/-- What the clock shows, if it is read and shows anything. -/
def Moment.reading? : Moment → Option Instant
  | .clock (.ok time) => some time
  | _ => none

/-- The length of a sleep. -/
def Moment.sleep? : Moment → Option Duration
  | .clock _ => none
  | .asleep length => some length

/-- The readings among moments, in order. -/
def readings (notes : List Moment) : List Instant := notes.filterMap Moment.reading?

/-- The lengths of the sleeps among moments, in order. -/
def sleeps (notes : List Moment) : List Duration := notes.filterMap Moment.sleep?

@[simp] theorem readings_append (first second : List Moment) :
    readings (first ++ second) = readings first ++ readings second := List.filterMap_append

@[simp] theorem sleeps_append (first second : List Moment) :
    sleeps (first ++ second) = sleeps first ++ sleeps second := List.filterMap_append

/-- Readings of a clock that never goes back. -/
def NeverBack (times : List Instant) : Prop :=
  times.Pairwise fun earlier later => earlier.nanos ≤ later.nanos

instance (times : List Instant) : Decidable (NeverBack times) :=
  inferInstanceAs (Decidable (List.Pairwise _ times))

/-- The source with a listener that notes clock and sleep. -/
def SampleSource.timed (source : SampleSource σ) : SampleSource (σ × List Moment) where
  readText path := besideNotes (source.readText path)
  now := noted .clock source.now
  sleep d := noted (fun _ => .asleep d) (source.sleep d)
  hostShares := besideNotes source.hostShares
  hostFree := besideNotes source.hostFree

/-- The listener disturbs nothing. -/
theorem SampleSource.timed_mirrors (source : SampleSource σ) :
    source.Mirrors Session.Beside source.timed where
  readText _ := .besideNotes _
  now := .noted _ _
  sleep d := .noted (fun _ => .asleep d) _
  hostShares := .besideNotes _
  notice n := .notice Session.Beside.outlasts n

/-- A session without the notes beside its world. -/
def Session.unheard {ν : Type} (s : Session (σ × List ν)) : Session σ := s.inWorld s.world.1

/-- The time between two readings that a clock can show. -/
theorem Instant.nanos_since {start finish : Instant} (h : finish.nanos < Instant.limit) :
    (finish.since start).nanos = finish.nanos - start.nanos := by
  have hfits : finish.nanos - start.nanos < durationLimit :=
    lt_of_le_of_lt (Nat.sub_le _ _) (h.trans (by decide))
  rw [since, Duration.ofNanos?, dif_pos hfits]
  rfl

namespace Sampler

/-- There is a sample from before a reading of the clock. -/
def Warm (previous : Option Sample) (time : Instant) : Prop :=
  ∃ cached, previous = some cached ∧ cached.sampledAt.nanos < time.nanos

theorem usable?_of_lt {cached : Sample} {time : Instant}
    (h : cached.sampledAt.nanos < time.nanos) :
    usable? (some cached) time = some (cached, time.since cached.sampledAt) := if_pos h

theorem usable?_of_cold {previous : Option Sample} {time : Instant} (h : ¬ Warm previous time) :
    usable? previous time = none := by
  cases previous with
  | none => rfl
  | some cached => exact if_neg fun hlater => h ⟨cached, rfl, hlater⟩

/-- How long a call sleeps, one length for each time that it does: not at all if there is a
sample from before the first reading of the clock. Otherwise it sleeps once, for the whole wait,
unless the counters cannot be read or the clock has no reading in range before that. -/
inductive Sleeping (source : SampleSource σ) (wait : Duration) (files : CpuFiles)
    (previous : Option Sample) (w : σ) : List Duration → Prop where
  /-- The clock shows nothing. -/
  | unclocked {cause : Panic} {w₁ : σ} (hclock : source.now w = (.error cause, w₁)) :
      Sleeping source wait files previous w []
  /-- There is a sample from before. -/
  | warm {time : Instant} {w₁ : σ} (hclock : source.now w = (.ok time, w₁))
      (hwarm : Warm previous time) : Sleeping source wait files previous w []
  /-- There is none, and the counters cannot be read. -/
  | unread {time : Instant} {w₁ : σ} (hclock : source.now w = (.ok time, w₁))
      (hcold : ¬ Warm previous time)
      (hunread : ∀ before w₂, ¬ Reads source files.usage files.counters w₁ before w₂) :
      Sleeping source wait files previous w []
  /-- The counters were read, and then the clock shows nothing. -/
  | stopped {time : Instant} {before : List UInt64} {cause : Panic} {w₁ w₂ w₃ : σ}
      (hclock : source.now w = (.ok time, w₁)) (hcold : ¬ Warm previous time)
      (hbefore : Reads source files.usage files.counters w₁ before w₂)
      (hstart : source.now w₂ = (.error cause, w₃)) : Sleeping source wait files previous w []
  /-- The counters were read for the first time. -/
  | cold {time start : Instant} {before : List UInt64} {w₁ w₂ w₃ : σ}
      (hclock : source.now w = (.ok time, w₁)) (hcold : ¬ Warm previous time)
      (hbefore : Reads source files.usage files.counters w₁ before w₂)
      (hstart : source.now w₂ = (.ok start, w₃)) : Sleeping source wait files previous w [wait]

/-- More was noted between two sessions, with sleeps of these lengths. -/
def Slept (s s' : Session (σ × List Moment)) (lengths : List Duration) : Prop :=
  ∃ notes, s'.world.2 = s.world.2 ++ notes ∧ sleeps notes = lengths

theorem Slept.trans {s s₁ s' : Session (σ × List Moment)} {first second : List Duration}
    (h : Slept s s₁ first) (h' : Slept s₁ s' second) : Slept s s' (first ++ second) := by
  obtain ⟨notes, hnotes, rfl⟩ := h
  obtain ⟨more, hmore, rfl⟩ := h'
  exact ⟨notes ++ more, by rw [hmore, hnotes, List.append_assoc], sleeps_append _ _⟩

variable {source : SampleSource σ} {wait : Duration} {id : String} {files : CpuFiles}
  {s s' : Session (σ × List Moment)}

namespace Reading

/-- The first of two steps came through and the second went on, or both end as the first. -/
theorem of_bind {a : Reading σ α} {f : α → Reading σ β} {s s' : Session σ}
    {r : Except Halt (Except IoError β)} (h : (a >>= f) s = (r, s')) :
    (∃ x s₁, a s = (.ok (.ok x), s₁) ∧ f x s₁ = (r, s')) ∨
      ∃ e, a s = (e, s') ∧ ∀ x, e ≠ .ok (.ok x) := by
  rcases Call.of_bind h with ⟨x, s₁, hfirst, h⟩ | ⟨halt, hfirst, _⟩
  · cases x with
    | ok x => exact .inl ⟨x, s₁, hfirst, h⟩
    | error cause =>
      obtain ⟨_, rfl⟩ := Call.of_pure h
      exact .inr ⟨_, hfirst, by simp⟩
  · exact .inr ⟨_, hfirst, by simp⟩

/-- Steps that do not sleep. -/
def Sleepless (a : Reading (σ × List Moment) α) : Prop :=
  ∀ ⦃s r s'⦄, a s = (r, s') → Slept s s' []

theorem Sleepless.pure (x : α) : Sleepless (pure x : Reading (σ × List Moment) α) := by
  intro _ _ _ h
  obtain ⟨_, rfl⟩ := Call.of_pure h
  exact ⟨[], by simp, rfl⟩

theorem Sleepless.bind {a : Reading (σ × List Moment) α} {f : α → Reading (σ × List Moment) β}
    (h : Sleepless a) (hthen : ∀ x, Sleepless (f x)) : Sleepless (a >>= f) := fun _ _ _ hrun => by
  rcases of_bind hrun with ⟨x, s₁, hfirst, hrest⟩ | ⟨e, hfirst, _⟩
  · exact (h hfirst).trans (hthen x hrest)
  · exact h hfirst

end Reading

open Reading (Sleepless)

/-- Reading a file is not noted. It comes through just if the file can be read. -/
theorem readFile_timed {path : String} {value : String → Except IoError α}
    {r : Except Halt (Except IoError α)}
    (h : readFile source.timed path value s = (r, s')) :
    s'.world.2 = s.world.2 ∧
      (∀ x, r = .ok (.ok x) → Reads source path value s.world.1 x s'.world.1) ∧
      ((∀ x, r ≠ .ok (.ok x)) → ∀ x w, ¬ Reads source path value s.world.1 x w) := by
  rw [readFile_apply] at h
  obtain ⟨rfl, rfl⟩ := Prod.mk.inj h
  refine ⟨rfl, fun x hx => ?_, ?_⟩
  · obtain ⟨content, hread, hvalue⟩ := AccountingFile.valueOf_eq_ok_iff.mp (Except.ok.inj hx)
    exact .mk (Prod.ext hread rfl) hvalue
  · rintro hnone x w ⟨hread, hvalue⟩
    have htext : (source.timed.readText path s.world).1 = .ok _ := congrArg Prod.fst hread
    exact hnone x (congrArg Except.ok (AccountingFile.valueOf_eq_ok_iff.mpr ⟨_, htext, hvalue⟩))

theorem sleepless_readFile (path : String) (value : String → Except IoError α) :
    Sleepless (readFile source.timed path value) := fun _ _ _ h =>
  ⟨[], by simp [(readFile_timed h).1], rfl⟩

/-- What the clock shows is noted. -/
theorem now_timed {r : Except Halt (Except IoError Instant)} (h : now source.timed s = (r, s')) :
    s'.world.2 = s.world.2 ++ [.clock (source.now s.world.1).1] ∧
      source.now s.world.1 = ((source.now s.world.1).1, s'.world.1) ∧
      r = ((source.now s.world.1).1.mapError .panicked).map .ok := by
  obtain ⟨q, hask, rfl⟩ := Reading.of_lift h
  obtain ⟨rfl, rfl⟩ := Call.of_ask hask
  exact ⟨rfl, rfl, rfl⟩

theorem sleepless_now : Sleepless (now source.timed) := fun _ _ _ h =>
  ⟨_, (now_timed h).1, rfl⟩

/-- A clock that was read has shown something. -/
theorem now_timed_ok {time : Instant} (h : now source.timed s = (.ok (.ok time), s')) :
    source.now s.world.1 = (.ok time, s'.world.1) ∧
      s'.world.2 = s.world.2 ++ [.clock (.ok time)] := by
  obtain ⟨hnotes, hclock, hshown⟩ := now_timed h
  cases hreading : (source.now s.world.1).1 with
  | error cause => simp [hreading, Except.mapError, Except.map] at hshown
  | ok reading =>
    obtain rfl : time = reading := by simpa [hreading, Except.mapError, Except.map] using hshown
    rw [hreading] at hnotes hclock
    exact ⟨hclock, hnotes⟩

/-- A clock that stopped a call has shown nothing. -/
theorem now_timed_error {e : Except Halt (Except IoError Instant)}
    (h : now source.timed s = (e, s')) (hnone : ∀ x, e ≠ .ok (.ok x)) :
    ∃ cause, source.now s.world.1 = (.error cause, s'.world.1) := by
  obtain ⟨_, hclock, hshown⟩ := now_timed h
  cases hreading : (source.now s.world.1).1 with
  | error cause => exact ⟨cause, by rw [← hreading]; exact hclock⟩
  | ok reading => exact absurd (by rw [hshown, hreading]; rfl) (hnone reading)

/-- Sleeping is noted, whatever it comes to. -/
theorem sleep_timed {r : Except Halt (Except IoError Unit)}
    (h : (ExceptT.lift (Call.ask (source.timed.sleep wait)) : Reading _ Unit) s = (r, s')) :
    Slept s s' [wait] := by
  obtain ⟨q, hask, rfl⟩ := Reading.of_lift h
  obtain ⟨rfl, rfl⟩ := Call.of_ask hask
  exact ⟨_, rfl, rfl⟩

/-- Counters are read twice with a sleep in between, if they can be read at all. -/
private theorem sleeping_coldWindow {time : Instant} {previous : Option Sample} {w : σ}
    {r : Except Halt (Except IoError CounterWindow)}
    (h : coldWindow source.timed files wait s = (r, s'))
    (hclock : source.now w = (.ok time, s.world.1)) (hcold : ¬ Warm previous time) :
    ∃ lengths, Slept s s' lengths ∧ Sleeping source wait files previous w lengths := by
  rcases Reading.of_bind h with ⟨before, s₁, hbefore, h⟩ | ⟨e, hbefore, hnone⟩
  swap
  · obtain ⟨hnotes, _, hunread⟩ := readFile_timed hbefore
    exact ⟨[], ⟨[], by simp [hnotes], rfl⟩, .unread hclock hcold (hunread hnone)⟩
  have hreads := (readFile_timed hbefore).2.1 before rfl
  have hfirst := sleepless_readFile _ _ hbefore
  rcases Reading.of_bind h with ⟨start, s₂, hstart, h⟩ | ⟨e, hstart, hnone⟩
  swap
  · obtain ⟨cause, hshown⟩ := now_timed_error hstart hnone
    exact ⟨[], hfirst.trans (sleepless_now hstart), .stopped hclock hcold hreads hshown⟩
  have hbegun := hfirst.trans (sleepless_now hstart)
  refine ⟨[wait], ?_, .cold hclock hcold hreads (now_timed_ok hstart).1⟩
  rcases Reading.of_bind h with ⟨_, s₃, hsleep, h⟩ | ⟨e, hsleep, _⟩
  · have hrest : Sleepless (do
        let current ← readCounters source.timed files
        let finish ← now source.timed
        let interval := if start.nanos < finish.nanos then finish.since start else wait
        return (⟨before, current, interval, finish⟩ : CounterWindow)) :=
      (sleepless_readFile _ _).bind fun _ => sleepless_now.bind fun _ => .pure _
    exact (hbegun.trans (sleep_timed hsleep)).trans (hrest h)
  · exact hbegun.trans (sleep_timed hsleep)

/-- Reading the files of a container takes as long as its sample of before asks for. -/
theorem sleeping_readCpu {r : Except Halt (Except IoError (CounterWindow × UInt64 × UInt64))}
    (h : readCpu source.timed wait id files s = (r, s')) :
    ∃ lengths, Slept s s' lengths ∧
      Sleeping source wait files (Pairs.find? id s.samples) s.world.1 lengths := by
  have hwindow : ∀ {r s'}, windowSince source.timed wait files (Pairs.find? id s.samples) s =
      (r, s') → ∃ lengths, Slept s s' lengths ∧
        Sleeping source wait files (Pairs.find? id s.samples) s.world.1 lengths := by
    intro r s' h
    rcases Reading.of_bind h with ⟨time, s₁, hnow, h⟩ | ⟨e, hnow, hnone⟩
    swap
    · obtain ⟨cause, hshown⟩ := now_timed_error hnow hnone
      exact ⟨[], sleepless_now hnow, .unclocked hshown⟩
    have hclock := (now_timed_ok hnow).1
    by_cases hwarm : Warm (Pairs.find? id s.samples) time
    · obtain ⟨cached, hcached, hlater⟩ := hwarm
      simp only [hcached, usable?_of_lt hlater] at h
      have hrest : Sleepless (warmWindow source.timed files cached
          (time.since cached.sampledAt) time) :=
        (sleepless_readFile _ _).bind fun _ => .pure _
      exact ⟨[], (sleepless_now hnow).trans (hrest h), .warm hclock ⟨cached, hcached, hlater⟩⟩
    · simp only [usable?_of_cold hwarm] at h
      obtain ⟨lengths, hslept, hsleeping⟩ := sleeping_coldWindow h hclock hwarm
      exact ⟨lengths, (sleepless_now hnow).trans hslept, hsleeping⟩
  rcases Reading.of_bind h with ⟨window, s₁, hfirst, h⟩ | ⟨e, hfirst, _⟩
  · obtain ⟨lengths, hslept, hsleeping⟩ := hwindow hfirst
    have hrest : Sleepless (do
        return (window, ← readFile source.timed files.stat files.userSystem)) :=
      (sleepless_readFile _ _).bind fun _ => .pure _
    exact ⟨lengths, by simpa using hslept.trans (hrest h), hsleeping⟩
  · exact hwindow hfirst

end Sampler

end Periscope
