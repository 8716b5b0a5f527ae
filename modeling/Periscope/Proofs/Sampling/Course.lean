import Periscope.Cgroup.Sampler
import Periscope.Proofs.Ledger
import Periscope.Proofs.Steps
import Periscope.Proofs.Text.KeyedFile

/-!
# The course of sampling a container

Until all files of a container have been read, a call only asks the world; then it keeps the
latest counters, and from there on only the host's figures or a sum out of range can stop it.
The theorems here say which answers of the world a call has used.
-/

namespace Periscope

variable {σ α β : Type}

/-- Nothing but the world has changed. -/
def Session.Asks (s s' : Session σ) : Prop := ∃ world, s' = { s with world }

theorem Session.Asks.trans {s s₁ s' : Session σ} (h₁ : s.Asks s₁) (h₂ : s₁.Asks s') :
    s.Asks s' := by
  obtain ⟨w₁, rfl⟩ := h₁
  obtain ⟨w₂, rfl⟩ := h₂
  exact ⟨w₂, rfl⟩

/-- The world has changed, and the operator may have been told something. -/
def Session.Tells (s s' : Session σ) : Prop :=
  ∃ world notes, Concerns notes [.notice] ∧ s' = { s with world, journal := s.journal ++ notes }

theorem Session.Asks.tells {s s' : Session σ} (h : s.Asks s') : s.Tells s' := by
  obtain ⟨world, rfl⟩ := h
  exact ⟨world, [], .nil _, by simp⟩

theorem Session.Tells.trans {s s₁ s' : Session σ} (h₁ : s.Tells s₁) (h₂ : s₁.Tells s') :
    s.Tells s' := by
  obtain ⟨w₁, first, hfirst, rfl⟩ := h₁
  obtain ⟨w₂, second, hsecond, rfl⟩ := h₂
  exact ⟨w₂, first ++ second, hfirst.append hsecond, by simp⟩

namespace Sampler

variable {source : SampleSource σ} {s s' : Session σ}

namespace Reading

/-- Steps that only ask the world, whatever they come to, and stop only where the world has no
answer in range. -/
structure Asks (a : Reading σ α) : Prop where
  /-- Nothing else is changed. -/
  asks : ∀ {s r s'}, a s = (r, s') → s.Asks s'
  /-- Why they stop. -/
  halts : ∀ {s halt s'}, a s = (.error halt, s') → ∃ cause, halt = .panicked cause

theorem asks_pure (x : α) : Asks (pure x : Reading σ α) where
  asks h := by
    obtain ⟨_, rfl⟩ := Call.of_pure h
    exact ⟨_, rfl⟩
  halts h := by
    obtain ⟨hout, _⟩ := Call.of_pure h
    cases hout

/-- Steps after steps. -/
theorem Asks.bind {a : Reading σ α} {f : α → Reading σ β} (ha : Asks a) (hf : ∀ x, Asks (f x)) :
    Asks (a >>= f) where
  asks h := by
    rcases Call.of_bind h with ⟨x, s₁, hfirst, h⟩ | ⟨halt, hfirst, _⟩
    · have hasked := ha.asks hfirst
      cases x with
      | ok x => exact hasked.trans ((hf x).asks h)
      | error cause =>
        obtain ⟨_, rfl⟩ := Call.of_pure h
        exact hasked
    · exact ha.asks hfirst
  halts h := by
    rcases Call.of_bind h with ⟨x, s₁, _, h⟩ | ⟨halt, hfirst, hhalt⟩
    · cases x with
      | ok x => exact (hf x).halts h
      | error cause =>
        obtain ⟨hout, _⟩ := Call.of_pure h
        cases hout
    · obtain rfl := Except.error.inj hhalt
      exact ha.halts hfirst

/-- A call among the steps comes to what it comes to alone. -/
theorem of_lift {a : Call σ α} {r : Except Halt (Except IoError α)}
    (h : (ExceptT.lift a : Reading σ α) s = (r, s')) :
    ∃ q, a s = (q, s') ∧ r = q.map .ok := by
  rcases Call.of_bind (show (a >>= fun x => pure (.ok x)) s = (r, s') from h) with
    ⟨x, s₁, ha, h⟩ | ⟨halt, ha, rfl⟩
  · obtain ⟨rfl, rfl⟩ := Call.of_pure h
    exact ⟨.ok x, ha, rfl⟩
  · exact ⟨.error halt, ha, rfl⟩

theorem asks_ask (answer : σ → Except Panic α × σ) :
    Asks (ExceptT.lift (Call.ask answer) : Reading σ α) where
  asks h := by
    obtain ⟨q, hask, _⟩ := of_lift h
    exact ⟨_, (Call.of_ask hask).2⟩
  halts {s halt s'} h := by
    obtain ⟨q, hask, hq⟩ := of_lift h
    obtain ⟨rfl, _⟩ := Call.of_ask hask
    cases hanswer : (answer s.world).1 with
    | ok x => simp [hanswer, Except.mapError, Except.map] at hq
    | error cause => exact ⟨cause, by simpa [hanswer, Except.mapError, Except.map] using hq⟩

/-- Both parts of steps that came through have come through. -/
theorem of_bind_ok {a : Reading σ α} {f : α → Reading σ β} {y : β}
    (h : (a >>= f) s = (.ok (.ok y), s')) :
    ∃ x s₁, a s = (.ok (.ok x), s₁) ∧ f x s₁ = (.ok (.ok y), s') := by
  rcases Call.of_bind h with ⟨x, s₁, hfirst, h⟩ | ⟨halt, _, hhalt⟩
  · cases x with
    | ok x => exact ⟨x, s₁, hfirst, h⟩
    | error cause =>
      obtain ⟨hout, _⟩ := Call.of_pure h
      simp at hout
  · cases hhalt

/-- Steps that came through go on with what they came to. -/
theorem bind_of_ok {a : Reading σ α} (f : α → Reading σ β) {x : α} {s₁ : Session σ}
    (h : a s = (.ok (.ok x), s₁)) : (a >>= f) s = f x s₁ :=
  Call.bind_of_ok (ExceptT.bindCont f) h

/-- Steps that failed do not go on. -/
theorem bind_of_error {a : Reading σ α} (f : α → Reading σ β) {cause : IoError}
    {s₁ : Session σ} (h : a s = (.ok (.error cause), s₁)) :
    (a >>= f) s = (.ok (.error cause), s₁) :=
  Call.bind_of_ok (ExceptT.bindCont f) h

/-- Steps that were stopped do not go on. -/
theorem bind_of_halt {a : Reading σ α} (f : α → Reading σ β) {halt : Halt} {s₁ : Session σ}
    (h : a s = (.error halt, s₁)) : (a >>= f) s = (.error halt, s₁) :=
  Call.bind_of_error (ExceptT.bindCont f) h

/-- What was asked for is what the world answered. -/
theorem of_ask_ok {answer : σ → Except Panic α × σ} {x : α}
    (h : (ExceptT.lift (Call.ask answer) : Reading σ α) s = (.ok (.ok x), s')) :
    answer s.world = (.ok x, s'.world) := by
  obtain ⟨q, hask, hq⟩ := of_lift h
  obtain ⟨rfl, rfl⟩ := Call.of_ask hask
  cases hanswer : (answer s.world).1 with
  | error cause => simp [hanswer, Except.mapError, Except.map] at hq
  | ok y =>
    obtain rfl : x = y := by simpa [hanswer, Except.mapError, Except.map] using hq
    exact Prod.ext hanswer rfl

end Reading

/-- The files, when they were read, gave this value. -/
inductive Reads (source : SampleSource σ) (path : String) (value : String → Except IoError α)
    (w : σ) (x : α) (w' : σ) : Prop
  /-- The file could be read, and its text has the value. -/
  | mk {content : String} (hread : source.readText path w = (.ok content, w'))
      (hvalue : value content = .ok x)

/-- Reading a file asks the world once for its text, and comes to the value of that. -/
theorem readFile_apply (path : String) (value : String → Except IoError α) (s : Session σ) :
    readFile source path value s =
      (.ok (AccountingFile.valueOf path value (source.readText path s.world).1),
        { s with world := (source.readText path s.world).2 }) := by
  have hask : (ExceptT.lift (Call.perform (Action.ask (source.readText path))) :
      Reading σ (Except IoError String)) s =
        (.ok (.ok (source.readText path s.world).1),
          { s with world := (source.readText path s.world).2 }) := rfl
  rw [readFile, Reading.bind_of_ok _ hask]
  cases (source.readText path s.world).1 <;> rfl

/-- Reading a file asks the world once, and returns a value or an error. -/
private theorem readFile_course {path : String} {value : String → Except IoError α}
    {r : Except Halt (Except IoError α)} (h : readFile source path value s = (r, s')) :
    s.Asks s' ∧ (∃ result, r = .ok result) ∧
      ∀ x, r = .ok (.ok x) → Reads source path value s.world x s'.world := by
  rw [readFile_apply] at h
  obtain ⟨rfl, rfl⟩ := Prod.mk.inj h
  refine ⟨⟨_, rfl⟩, ⟨_, rfl⟩, fun x hx => ?_⟩
  obtain ⟨content, hread, hvalue⟩ := AccountingFile.valueOf_eq_ok_iff.mp (Except.ok.inj hx)
  exact .mk (Prod.ext hread rfl) hvalue

theorem asks_readFile (path : String) (value : String → Except IoError α) :
    Reading.Asks (readFile source path value) where
  asks h := (readFile_course h).1
  halts h := by
    obtain ⟨_, ⟨result, hresult⟩, _⟩ := readFile_course h
    cases hresult

theorem reads_of_readFile {path : String} {value : String → Except IoError α} {x : α}
    (h : readFile source path value s = (.ok (.ok x), s')) :
    Reads source path value s.world x s'.world :=
  (readFile_course h).2.2 x rfl

variable {files : CpuFiles} {wait : Duration} {id : String}

/-- The window of the counters, as it was read: against a usable sample of before with one
reading of the counters, otherwise with two readings and a wait in between. -/
inductive WindowRead (source : SampleSource σ) (wait : Duration) (files : CpuFiles)
    (previous : Option Sample) (w : σ) : Instant → CounterWindow → σ → Prop where
  /-- There is a usable sample of before. -/
  | warm {time : Instant} {sample : Sample} {interval : Duration} {current : List UInt64}
      {w₁ w₂ : σ} (hclock : source.now w = (.ok time, w₁))
      (husable : usable? previous time = some (sample, interval))
      (hcurrent : Reads source files.usage files.counters w₁ current w₂) :
      WindowRead source wait files previous w time ⟨sample.counters, current, interval, time⟩ w₂
  /-- There is none. -/
  | cold {time start finish : Instant} {before current : List UInt64} {w₁ w₂ w₃ w₄ w₅ w₆ : σ}
      (hclock : source.now w = (.ok time, w₁)) (hunusable : usable? previous time = none)
      (hbefore : Reads source files.usage files.counters w₁ before w₂)
      (hstart : source.now w₂ = (.ok start, w₃)) (hsleep : source.sleep wait w₃ = (.ok (), w₄))
      (hcurrent : Reads source files.usage files.counters w₄ current w₅)
      (hfinish : source.now w₅ = (.ok finish, w₆)) :
      WindowRead source wait files previous w time
        ⟨before, current, if start.nanos < finish.nanos then finish.since start else wait, finish⟩
        w₆

/-- Looking at the session changes nothing. -/
private theorem of_get {r : Except Halt (Except IoError (Session σ))}
    (h : (get : Reading σ (Session σ)) s = (r, s')) : r = .ok (.ok s) ∧ s' = s := by
  have hget : ((.ok (.ok s), s) : Except Halt (Except IoError (Session σ)) × Session σ) = (r, s') :=
    h
  obtain ⟨rfl, rfl⟩ := Prod.mk.inj hget
  exact ⟨rfl, rfl⟩

private theorem asks_get : Reading.Asks (get : Reading σ (Session σ)) where
  asks h := by
    obtain ⟨_, rfl⟩ := of_get h
    exact ⟨_, rfl⟩
  halts h := by
    obtain ⟨hout, _⟩ := of_get h
    cases hout

/-- Taking the window of the counters only asks the world. -/
theorem asks_window : Reading.Asks (window source wait id files) := by
  refine asks_get.bind fun _ => (Reading.asks_ask source.now).bind fun time => ?_
  split
  · exact (asks_readFile _ _).bind fun _ => Reading.asks_pure _
  · refine (asks_readFile _ _).bind fun _ => (Reading.asks_ask source.now).bind fun _ => ?_
    refine (Reading.asks_ask (source.sleep wait)).bind fun _ => ?_
    refine (asks_readFile _ _).bind fun _ => (Reading.asks_ask source.now).bind fun _ => ?_
    exact Reading.asks_pure _

/-- The window is made of what the world answered. -/
theorem windowRead_of_ok {result : CounterWindow}
    (h : window source wait id files s = (.ok (.ok result), s')) :
    ∃ time,
      WindowRead source wait files (Pairs.find? id s.samples) s.world time result s'.world := by
  obtain ⟨cache, s₁, hcache, hrest⟩ := Reading.of_bind_ok h
  obtain ⟨hcache, hs⟩ := of_get hcache
  obtain rfl := Except.ok.inj (Except.ok.inj hcache)
  subst hs
  obtain ⟨time, s₂, hclock, hrest⟩ := Reading.of_bind_ok hrest
  replace hclock := Reading.of_ask_ok hclock
  refine ⟨time, ?_⟩
  cases husable : usable? (Pairs.find? id s₁.samples) time with
  | some found =>
    obtain ⟨previous, interval⟩ := found
    simp only [husable] at hrest
    obtain ⟨current, s₃, hcurrent, hrest⟩ := Reading.of_bind_ok hrest
    obtain ⟨hresult, rfl⟩ := Call.of_pure hrest
    obtain rfl := Except.ok.inj (Except.ok.inj hresult)
    exact .warm hclock husable (reads_of_readFile hcurrent)
  | none =>
    simp only [husable] at hrest
    obtain ⟨before, s₃, hbefore, hrest⟩ := Reading.of_bind_ok hrest
    obtain ⟨start, s₄, hstart, hrest⟩ := Reading.of_bind_ok hrest
    obtain ⟨_, s₅, hsleep, hrest⟩ := Reading.of_bind_ok hrest
    obtain ⟨current, s₆, hcurrent, hrest⟩ := Reading.of_bind_ok hrest
    obtain ⟨finish, s₇, hfinish, hrest⟩ := Reading.of_bind_ok hrest
    obtain ⟨hresult, rfl⟩ := Call.of_pure hrest
    obtain rfl := Except.ok.inj (Except.ok.inj hresult)
    exact .cold hclock husable (reads_of_readFile hbefore) (Reading.of_ask_ok hstart)
      (Reading.of_ask_ok hsleep) (reads_of_readFile hcurrent) (Reading.of_ask_ok hfinish)

/-- What a call has read once it has read all files of a container. -/
structure CpuReadings where
  /-- The clock at the start. -/
  time : Instant
  /-- The window of the counters. -/
  window : CounterWindow
  /-- The user time. -/
  user : UInt64
  /-- The system time. -/
  system : UInt64
  /-- The host's figures, if they could be told. -/
  host : Except Panic (Except IoError (List (HostShares Float)))

namespace CpuReadings

/-- The readings are what the world answered. -/
inductive ReadIn (source : SampleSource σ) (wait : Duration) (files : CpuFiles)
    (previous : Option Sample) (w : σ) (r : CpuReadings) (w' : σ) : Prop where
  /-- First the counters are read, then the ticks and then the host's figures. -/
  | mk {w₁ w₂ : σ} (hwindow : WindowRead source wait files previous w r.time r.window w₁)
      (hticks : Reads source files.stat files.userSystem w₁ (r.user, r.system) w₂)
      (hhost : source.hostShares w₂ = (r.host, w'))

/-- The sample that is kept. -/
def sample (r : CpuReadings) : Sample := ⟨r.window.current, r.window.sampledAt⟩

/-- The host's shares; if they could not be read there are none. -/
def shares (r : CpuReadings) : List (HostShares Float) :=
  match r.host with
  | .ok (.ok shares) => shares
  | _ => []

/-- What the call comes to. -/
def outcome (r : CpuReadings) : Except Halt (Except CrawlError (List (CoreUsage Float))) :=
  match r.host with
  | .error cause => .error (.panicked cause)
  | .ok _ =>
    match computeCoreUsage r.window.before r.window.current r.window.interval r.user r.system
        r.shares with
    | .error cause => .error (.panicked cause)
    | .ok cores => .ok (.ok cores)

end CpuReadings

/-- The part of a call for the processor use of a container that reads the container's files. -/
def readCpu (source : SampleSource σ) (wait : Duration) (id : String) (files : CpuFiles) :
    Reading σ (CounterWindow × UInt64 × UInt64) := do
  let window ← window source wait id files
  return (window, ← readFile source files.stat files.userSystem)

/-- What a call for the processor use of a container does. -/
inductive CpuCourse (source : SampleSource σ) (wait : Duration) (id : String) (files : CpuFiles)
    (s : Session σ) :
    Except Halt (Except CrawlError (List (CoreUsage Float))) → Session σ → Prop where
  /-- A file could not be read. -/
  | unread {cause : IoError} {s' : Session σ}
      (hfiles : readCpu source wait id files s = (.ok (.error cause), s')) (hasks : s.Asks s') :
      CpuCourse source wait id files s (.ok (.error (.resourceSample id cause.message))) s'
  /-- The clock had no answer in range before all files were read. -/
  | stopped {cause : Panic} {s' : Session σ}
      (hfiles : readCpu source wait id files s = (.error (.panicked cause), s'))
      (hasks : s.Asks s') : CpuCourse source wait id files s (.error (.panicked cause)) s'
  /-- All files were read, and the latest counters are kept. -/
  | sampled {r : CpuReadings} {s₁ s' : Session σ}
      (hfiles : readCpu source wait id files s = (.ok (.ok (r.window, r.user, r.system)), s₁))
      (hhost : source.hostShares s₁.world = (r.host, s'.world))
      (hread : r.ReadIn source wait files (Pairs.find? id s.samples) s.world s'.world)
      (htells : { s with samples := Pairs.insert id r.sample s.samples }.Tells s') :
      CpuCourse source wait id files s r.outcome s'

private theorem tells_notice {n : Notice} {u : Unit} (h : Action.notice n s = (u, s')) :
    s.Tells s' := by
  obtain ⟨_, rfl⟩ := Prod.mk.inj h
  exact ⟨s.world, [.noticed n s.depth], by simp [Concerns, Entry.topic], rfl⟩

/-- Asking for the host's figures may tell that there are none. -/
private theorem hostShares_course {result : Except Halt (List (HostShares Float))}
    (h : hostShares source s = (result, s')) :
    ∃ answer, source.hostShares s.world = (answer, s'.world) ∧ s.Tells s' ∧
      result = match answer with
        | .error cause => .error (.panicked cause)
        | .ok (.ok shares) => .ok shares
        | .ok (.error _) => .ok [] := by
  rcases Call.of_bind h with ⟨answer, s₁, hask, hrest⟩ | ⟨halt, hask, rfl⟩
  · obtain ⟨hanswer, rfl⟩ := Call.of_ask hask
    have hasked : s.Tells { s with world := (source.hostShares s.world).2 } :=
      Session.Asks.tells ⟨_, rfl⟩
    cases htold : (source.hostShares s.world).1 with
    | error cause => simp [htold, Except.mapError] at hanswer
    | ok told =>
      obtain rfl : answer = told := by simpa [htold, Except.mapError] using hanswer
      cases answer with
      | ok shares =>
        obtain ⟨rfl, rfl⟩ := Call.of_pure hrest
        exact ⟨_, Prod.ext htold rfl, hasked, rfl⟩
      | error cause =>
        obtain ⟨_, s₂, hnotice, hrest⟩ := Call.of_perform hrest
        obtain ⟨rfl, rfl⟩ := Call.of_pure hrest
        have hworld : s'.world = (source.hostShares s.world).2 := by
          obtain ⟨_, rfl⟩ := Prod.mk.inj hnotice
          rfl
        exact ⟨_, Prod.ext htold hworld.symm, hasked.trans (tells_notice hnotice), rfl⟩
  · obtain ⟨hanswer, rfl⟩ := Call.of_ask hask
    cases htold : (source.hostShares s.world).1 with
    | ok told => simp [htold, Except.mapError] at hanswer
    | error cause =>
      obtain rfl : halt = .panicked cause := by simpa [htold, Except.mapError] using hanswer
      exact ⟨_, Prod.ext htold rfl, Session.Asks.tells ⟨_, rfl⟩, rfl⟩

/-- Once the counters are kept, the host's figures are read and the outcome is computed. -/
private theorem report_course (r : CpuReadings)
    {outcome : Except Halt (Except CrawlError (List (CoreUsage Float)))}
    (h : (do
      let host ← hostShares source
      let cores ← Call.checked (computeCoreUsage r.window.before r.window.current r.window.interval
        r.user r.system host)
      return .ok cores : Call σ (Except CrawlError (List (CoreUsage Float)))) s = (outcome, s')) :
    ∃ answer, source.hostShares s.world = (answer, s'.world) ∧ s.Tells s' ∧
      outcome = CpuReadings.outcome { r with host := answer } := by
  rcases Call.of_bind h with ⟨shares, s₁, hhost, hrest⟩ | ⟨halt, hhost, rfl⟩
  · obtain ⟨answer, hasked, htells, hresult⟩ := hostShares_course hhost
    have hshares : ∃ told, answer = .ok told ∧
        CpuReadings.shares { r with host := answer } = shares := by
      rcases answer with cause | shares' | cause
      · cases hresult
      · exact ⟨_, rfl, (Except.ok.inj hresult).symm⟩
      · exact ⟨_, rfl, (Except.ok.inj hresult).symm⟩
    obtain ⟨told, rfl, rfl⟩ := hshares
    refine ⟨.ok told, ?_⟩
    cases hcores : computeCoreUsage r.window.before r.window.current r.window.interval r.user
        r.system (CpuReadings.shares { r with host := .ok told }) with
    | ok cores =>
      rw [hcores] at hrest
      obtain ⟨rfl, rfl⟩ := Call.of_pure hrest
      exact ⟨hasked, htells, by simp only [CpuReadings.outcome, hcores]⟩
    | error cause =>
      rw [hcores] at hrest
      obtain ⟨rfl, rfl⟩ := Call.of_halt hrest
      exact ⟨hasked, htells, by simp only [CpuReadings.outcome, hcores]⟩
  · obtain ⟨answer, hasked, htells, hresult⟩ := hostShares_course hhost
    refine ⟨answer, hasked, htells, ?_⟩
    rcases answer with cause | shares | cause
    · obtain rfl := Except.error.inj hresult
      rfl
    · cases hresult
    · cases hresult

/-- A call for the processor use of a container takes one of these courses. -/
theorem cpu_course {outcome : Except Halt (Except CrawlError (List (CoreUsage Float)))}
    (h : cpu source wait id files s = (outcome, s')) :
    CpuCourse source wait id files s outcome s' := by
  have hasks : Reading.Asks (readCpu source wait id files) :=
    asks_window.bind fun _ => (asks_readFile _ _).bind fun _ => Reading.asks_pure _
  rcases Call.of_bind h with ⟨read, s₁, hread, hrest⟩ | ⟨halt, hread, rfl⟩
  · replace hread : readCpu source wait id files s = (.ok read, s₁) := hread
    cases read with
    | error cause =>
      obtain ⟨rfl, rfl⟩ := Call.of_pure hrest
      exact .unread hread (hasks.asks hread)
    | ok figures =>
      obtain ⟨window, user, system⟩ := figures
      simp only [failed, Except.mapError] at hrest
      obtain ⟨window', s₂, hwindow, hstat⟩ := Reading.of_bind_ok hread
      obtain ⟨ticks, s₃, hticks, hdone⟩ := Reading.of_bind_ok hstat
      obtain ⟨hfigures, rfl⟩ := Call.of_pure hdone
      obtain ⟨rfl, rfl⟩ := Prod.mk.inj (Except.ok.inj (Except.ok.inj hfigures))
      obtain ⟨time, hwindow⟩ := windowRead_of_ok hwindow
      have hticks := reads_of_readFile hticks
      obtain ⟨world, rfl⟩ := hasks.asks hread
      have hkept : { s with
          samples := Pairs.insert id ⟨window.current, window.sampledAt⟩ s.samples }.Tells
        { s with
          world
          samples := Pairs.insert id ⟨window.current, window.sampledAt⟩ s.samples } :=
        Session.Asks.tells ⟨world, rfl⟩
      replace hrest : (if window.before.length ≠ window.current.length then _ else _ : Call σ _) _ =
        (outcome, s') := hrest
      split at hrest
      · obtain ⟨_, s₄, hnotice, hrest⟩ := Call.of_perform hrest
        obtain ⟨answer, hhost, htells, rfl⟩ :=
          report_course ⟨time, window, user, system, .ok (.ok [])⟩ hrest
        obtain ⟨_, rfl⟩ := Prod.mk.inj hnotice
        exact .sampled hread hhost (.mk hwindow hticks hhost)
          ((hkept.trans (tells_notice rfl)).trans htells)
      · obtain ⟨answer, hhost, htells, rfl⟩ :=
          report_course ⟨time, window, user, system, .ok (.ok [])⟩ hrest
        exact .sampled hread hhost (.mk hwindow hticks hhost) (hkept.trans htells)
  · obtain ⟨cause, rfl⟩ := hasks.halts hread
    exact .stopped hread (hasks.asks hread)

end Sampler

end Periscope
