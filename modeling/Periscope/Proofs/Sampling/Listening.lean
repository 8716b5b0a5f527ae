import Periscope.Proofs.Sampling.Course

/-!
# What a call for figures is told

A listener beside the world writes down answers that a program gets from it and changes
nothing else. Two runs of one program over different worlds that are told the same, as far as
the program asks for nothing else, come to the same.
-/

namespace Periscope

variable {σ τ α β : Type}

/-- An answer of the world to a call for figures. -/
inductive Answer where
  /-- The text of a file, or why it cannot be read. -/
  | text (path : String) (content : Except IoError String)
  /-- A reading of the clock. -/
  | time (reading : Except Panic Instant)
  /-- The end of a sleep. -/
  | woken (ending : Except Panic Unit)
  /-- The host's processor shares. -/
  | shares (cores : Except Panic (Except IoError (List (HostShares Float))))
  /-- The host's free memory. -/
  | free (bytes : Except Panic (Except IoError UInt64))

/-- Asks the world and writes the answer down if the listener heeds it. -/
def listen (heeds : Answer → Bool) (toAnswer : α → Answer) (ask : σ → α × σ) :
    σ × List Answer → α × (σ × List Answer) := fun w =>
  let (x, world) := ask w.1
  (x, world, w.2 ++ if heeds (toAnswer x) then [toAnswer x] else [])

/-- The source with a listener beside it. -/
def SampleSource.listened (heeds : Answer → Bool) (source : SampleSource σ) :
    SampleSource (σ × List Answer) where
  readText path := listen heeds (.text path) (source.readText path)
  now := listen heeds .time source.now
  sleep d := listen heeds .woken (source.sleep d)
  hostShares := listen heeds .shares source.hostShares
  hostFree := listen heeds .free source.hostFree

/-- A session with the notes of a listener beside its world. -/
def Session.noting (s : Session σ) (notes : List Answer) : Session (σ × List Answer) :=
  { world := (s.world, notes)
    depth := s.depth
    nextHandle := s.nextHandle
    samples := s.samples
    loading := s.loading
    journal := s.journal }

namespace Call

/-- What a call with a listener is told, from the start of the call on. -/
def told (heard : Call (σ × List Answer) α) (s : Session σ) : List Answer :=
  (heard (s.noting [])).2.world.2

/-- A call with a listener does what it does without one, and notes are only added. -/
def Overheard (plain : Call σ α) (heard : Call (σ × List Answer) α) : Prop :=
  ∀ s notes, heard (s.noting notes) =
    ((plain s).1, (plain s).2.noting (notes ++ told heard s))

namespace Overheard

/-- It is enough that some notes are added, whatever was noted before. -/
theorem of_exists {plain : Call σ α} {heard : Call (σ × List Answer) α}
    (h : ∀ s, ∃ added, ∀ notes, heard (s.noting notes) =
      ((plain s).1, (plain s).2.noting (notes ++ added))) : Overheard plain heard := by
  intro s notes
  obtain ⟨added, hadded⟩ := h s
  have htold : told heard s = added := by
    rw [told, hadded]
    rfl
  rw [htold]
  exact hadded notes

/-- What a call made of two is told: what its first part is told and, unless that halts, what
the second is told behind it. -/
theorem told_bind {first : Call σ α} {first' : Call (σ × List Answer) α} {second : α → Call σ β}
    {second' : α → Call (σ × List Answer) β} (h : Overheard first first')
    (hsecond : ∀ x, Overheard (second x) (second' x)) (s : Session σ) :
    told (first' >>= second') s = told first' s ++
      match (first s).1 with
      | .ok x => told (second' x) (first s).2
      | .error _ => [] := by
  rw [told, bind_apply, h s []]
  dsimp only
  cases (first s).1 with
  | ok x =>
    have hrest : ExceptT.bindCont second' (.ok x) ((first s).2.noting ([] ++ told first' s)) =
        second' x ((first s).2.noting ([] ++ told first' s)) := rfl
    rw [hrest, hsecond x]
    rfl
  | error halt =>
    rw [List.append_nil]
    rfl

/-- A listener to both parts of a call is a listener to the call. -/
theorem bind {first : Call σ α} {first' : Call (σ × List Answer) α} {second : α → Call σ β}
    {second' : α → Call (σ × List Answer) β} (h : Overheard first first')
    (hsecond : ∀ x, Overheard (second x) (second' x)) :
    Overheard (first >>= second) (first' >>= second') := by
  intro s notes
  rw [told_bind h hsecond, bind_apply, bind_apply, h s notes, ← List.append_assoc]
  cases (first s).1 with
  | ok x => exact hsecond x (first s).2 (notes ++ told first' s)
  | error halt =>
    rw [List.append_nil]
    rfl

/-- Asking the world through the listener. -/
theorem ask (heeds : Answer → Bool) (toAnswer : α → Answer) (answer : σ → α × σ) :
    Overheard (perform (Action.ask answer))
      (perform (Action.ask (listen heeds toAnswer answer))) :=
  of_exists fun s =>
    ⟨if heeds (toAnswer (answer s.world).1) then [toAnswer (answer s.world).1] else [],
      fun _ => rfl⟩

end Overheard

/-- Two calls over different worlds, each with a listener, that keep the cache and, with caches
that agree, come to the same if they are told the same. What is told may go on differently
behind them. -/
structure Lockstep (agree : SampleCache → SampleCache → Prop) (plain₁ : Call σ α)
    (heard₁ : Call (σ × List Answer) α) (plain₂ : Call τ α) (heard₂ : Call (τ × List Answer) α) :
    Prop where
  /-- The first listener disturbs nothing. -/
  left : Overheard plain₁ heard₁
  /-- Nor does the second. -/
  right : Overheard plain₂ heard₂
  /-- The first call keeps the cache. -/
  leftKeeps : ∀ s, (plain₁ s).2.samples = s.samples
  /-- So does the second. -/
  rightKeeps : ∀ t, (plain₂ t).2.samples = t.samples
  /-- Told the same, and with caches that agree, both come to the same. -/
  decided : ∀ s t, agree s.samples t.samples → ∀ more₁ more₂,
    told heard₁ s ++ more₁ = told heard₂ t ++ more₂ →
      (plain₁ s).1 = (plain₂ t).1 ∧ told heard₁ s = told heard₂ t

namespace Lockstep

variable {agree : SampleCache → SampleCache → Prop}

/-- A call that halts at once or returns at once is told nothing. -/
theorem const (r : Except Halt α) :
    Lockstep agree (ExceptT.mk (Pure.pure r) : Call σ α) (ExceptT.mk (Pure.pure r))
      (ExceptT.mk (Pure.pure r) : Call τ α) (ExceptT.mk (Pure.pure r)) where
  left := Overheard.of_exists fun _ => ⟨[], fun notes => by rw [List.append_nil]; rfl⟩
  right := Overheard.of_exists fun _ => ⟨[], fun notes => by rw [List.append_nil]; rfl⟩
  leftKeeps _ := rfl
  rightKeeps _ := rfl
  decided _ _ _ _ _ _ := ⟨rfl, rfl⟩

/-- Calls in lockstep, one behind the other. -/
theorem bind {plain₁ : Call σ α} {heard₁ : Call (σ × List Answer) α} {plain₂ : Call τ α}
    {heard₂ : Call (τ × List Answer) α} {then₁ : α → Call σ β}
    {thenHeard₁ : α → Call (σ × List Answer) β} {then₂ : α → Call τ β}
    {thenHeard₂ : α → Call (τ × List Answer) β} (h : Lockstep agree plain₁ heard₁ plain₂ heard₂)
    (hthen : ∀ x, Lockstep agree (then₁ x) (thenHeard₁ x) (then₂ x) (thenHeard₂ x)) :
    Lockstep agree (plain₁ >>= then₁) (heard₁ >>= thenHeard₁) (plain₂ >>= then₂)
      (heard₂ >>= thenHeard₂) where
  left := h.left.bind fun x => (hthen x).left
  right := h.right.bind fun x => (hthen x).right
  leftKeeps s := by
    rw [bind_apply, ← h.leftKeeps s]
    cases (plain₁ s).1 with
    | ok x => exact (hthen x).leftKeeps _
    | error halt => rfl
  rightKeeps t := by
    rw [bind_apply, ← h.rightKeeps t]
    cases (plain₂ t).1 with
    | ok x => exact (hthen x).rightKeeps _
    | error halt => rfl
  decided s t hagree more₁ more₂ htold := by
    rw [h.left.told_bind (fun x => (hthen x).left), h.right.told_bind fun x => (hthen x).right,
      List.append_assoc, List.append_assoc] at htold
    obtain ⟨hfirst, hsame⟩ := h.decided s t hagree _ _ htold
    rw [hsame] at htold
    replace htold := List.append_cancel_left htold
    rw [h.left.told_bind (fun x => (hthen x).left), h.right.told_bind fun x => (hthen x).right,
      bind_apply, bind_apply, hsame]
    rw [hfirst] at htold ⊢
    have hagree' : agree (plain₁ s).2.samples (plain₂ t).2.samples := by
      rw [h.leftKeeps, h.rightKeeps]
      exact hagree
    generalize (plain₂ t).1 = r at htold ⊢
    cases r with
    | ok x =>
      obtain ⟨hresult, htold'⟩ := (hthen x).decided _ _ hagree' _ _ htold
      exact ⟨hresult, congrArg (told heard₂ t ++ ·) htold'⟩
    | error halt => exact ⟨rfl, rfl⟩

/-- An answer that both listeners heed. -/
theorem ask {heeds : Answer → Bool} {toAnswer : α → Answer}
    (hinj : ∀ x y, toAnswer x = toAnswer y → x = y) (hheeds : ∀ x, heeds (toAnswer x) = true)
    (answer₁ : σ → α × σ) (answer₂ : τ → α × τ) :
    Lockstep agree (perform (Action.ask answer₁))
      (perform (Action.ask (listen heeds toAnswer answer₁))) (perform (Action.ask answer₂))
      (perform (Action.ask (listen heeds toAnswer answer₂))) where
  left := .ask heeds toAnswer answer₁
  right := .ask heeds toAnswer answer₂
  leftKeeps _ := rfl
  rightKeeps _ := rfl
  decided s t _ more₁ more₂ htold := by
    have hnoted {ρ : Type} (answer : ρ → α × ρ) (u : Session ρ) :
        told (perform (Action.ask (listen heeds toAnswer answer))) u =
          [toAnswer (answer u.world).1] := by
      have hnotes : told (perform (Action.ask (listen heeds toAnswer answer))) u =
          [] ++ if heeds (toAnswer (answer u.world).1) then [toAnswer (answer u.world).1] else [] :=
        rfl
      rw [hnotes, if_pos (hheeds _), List.nil_append]
    rw [hnoted, hnoted] at htold ⊢
    have hhead : toAnswer (answer₁ s.world).1 = toAnswer (answer₂ t.world).1 :=
      (List.cons.inj htold).1
    exact ⟨congrArg Except.ok (hinj _ _ hhead), by rw [hhead]⟩

end Lockstep

/-- A call that is told nothing. -/
def Quiet (heard : Call (σ × List Answer) α) : Prop :=
  ∀ u, (heard u).2.world.2 = u.world.2

theorem Quiet.pure (x : α) : Quiet (pure x : Call (σ × List Answer) α) := fun _ => rfl

theorem Quiet.notice (n : Notice) : Quiet (σ := σ) (perform (Action.notice n)) := fun _ => rfl

theorem Quiet.checked (x : Except Panic α) : Quiet (σ := σ) (checked x) := by
  intro u
  cases x <;> rfl

theorem Quiet.bind {first : Call (σ × List Answer) α} {second : α → Call (σ × List Answer) β}
    (hfirst : Quiet first) (hsecond : ∀ x, Quiet (second x)) : Quiet (first >>= second) := by
  intro u
  rw [bind_apply, ← hfirst u]
  cases (first u).1 with
  | ok x => exact hsecond x _
  | error halt => rfl

/-- An answer that the listener does not heed. -/
theorem Quiet.ask {heeds : Answer → Bool} {toAnswer : Except Panic α → Answer}
    (hheeds : ∀ x, heeds (toAnswer x) = false) (answer : σ → Except Panic α × σ) :
    Quiet (ask (listen heeds toAnswer answer)) := by
  refine Quiet.bind (fun u => ?_) Quiet.checked
  have hnotes : (perform (Action.ask (listen heeds toAnswer answer)) u).2.world.2 =
      u.world.2 ++ if heeds (toAnswer (answer u.world.1).1) then [toAnswer (answer u.world.1).1]
        else [] := rfl
  rw [hnotes, hheeds, if_neg Bool.false_ne_true, List.append_nil]

/-- A call behind which nothing more is heard is told what its first part is told. -/
theorem told_bind_of_quiet {first : Call (σ × List Answer) α}
    {second : α → Call (σ × List Answer) β} (hsecond : ∀ x, Quiet (second x)) (s : Session σ) :
    told (first >>= second) s = told first s := by
  rw [told, told, bind_apply]
  cases (first (s.noting [])).1 with
  | ok x => exact hsecond x _
  | error halt => rfl

end Call

namespace Sampler

variable {agree : SampleCache → SampleCache → Prop} {heeds : Answer → Bool}
  {source₁ : SampleSource σ} {source₂ : SampleSource τ}

namespace Reading

/-- Steps in lockstep. -/
abbrev Lockstep (agree : SampleCache → SampleCache → Prop) (plain₁ : Reading σ α)
    (heard₁ : Reading (σ × List Answer) α) (plain₂ : Reading τ α)
    (heard₂ : Reading (τ × List Answer) α) : Prop :=
  Call.Lockstep agree plain₁.run heard₁.run plain₂.run heard₂.run

theorem Lockstep.pure (x : α) :
    Lockstep agree (pure x : Reading σ α) (pure x) (pure x : Reading τ α) (pure x) :=
  .const (Except.ok (Except.ok x))

/-- Steps in lockstep, one behind the other. An error ends both. -/
theorem Lockstep.bind {plain₁ : Reading σ α} {heard₁ : Reading (σ × List Answer) α}
    {plain₂ : Reading τ α} {heard₂ : Reading (τ × List Answer) α} {then₁ : α → Reading σ β}
    {thenHeard₁ : α → Reading (σ × List Answer) β} {then₂ : α → Reading τ β}
    {thenHeard₂ : α → Reading (τ × List Answer) β} (h : Lockstep agree plain₁ heard₁ plain₂ heard₂)
    (hthen : ∀ x, Lockstep agree (then₁ x) (thenHeard₁ x) (then₂ x) (thenHeard₂ x)) :
    Lockstep agree (plain₁ >>= then₁) (heard₁ >>= thenHeard₁) (plain₂ >>= then₂)
      (heard₂ >>= thenHeard₂) :=
  Call.Lockstep.bind h fun
    | .ok x => hthen x
    | .error cause => .const (Except.ok (Except.error cause))

/-- An answer that may be out of range and that both listeners heed. -/
theorem Lockstep.ask {toAnswer : Except Panic α → Answer}
    (hinj : ∀ x y, toAnswer x = toAnswer y → x = y) (hheeds : ∀ x, heeds (toAnswer x) = true)
    (answer₁ : σ → Except Panic α × σ) (answer₂ : τ → Except Panic α × τ) :
    Lockstep agree (ExceptT.lift (Call.ask answer₁))
      (ExceptT.lift (Call.ask (listen heeds toAnswer answer₁)))
      (ExceptT.lift (Call.ask answer₂))
      (ExceptT.lift (Call.ask (listen heeds toAnswer answer₂))) := by
  have hchecked (x : Except Panic α) : Call.Lockstep agree (Call.checked x : Call σ α)
      (Call.checked x) (Call.checked x : Call τ α) (Call.checked x) := by
    cases x with
    | ok x => exact .const (.ok x)
    | error cause => exact .const (.error (.panicked cause))
  have hask := (Call.Lockstep.ask hinj hheeds answer₁ answer₂).bind hchecked
  exact hask.bind fun x => .const (Except.ok (Except.ok x))

end Reading

/-- A file that both listeners heed. -/
theorem lockstep_readFile {path : String} (hheeds : ∀ x, heeds (.text path x) = true)
    (value : String → Except IoError α) :
    Reading.Lockstep agree (readFile source₁ path value)
      (readFile (source₁.listened heeds) path value) (readFile source₂ path value)
      (readFile (source₂.listened heeds) path value) := by
  have hask : Reading.Lockstep agree
      (ExceptT.lift (Call.perform (Action.ask (source₁.readText path))))
      (ExceptT.lift (Call.perform (Action.ask ((source₁.listened heeds).readText path))))
      (ExceptT.lift (Call.perform (Action.ask (source₂.readText path))))
      (ExceptT.lift (Call.perform (Action.ask ((source₂.listened heeds).readText path)))) :=
    Call.Lockstep.bind (Call.Lockstep.ask (by simp) hheeds _ _) fun x =>
      .const (Except.ok (Except.ok x))
  refine hask.bind fun content => ?_
  cases content with
  | error cause =>
    exact Call.Lockstep.const (Except.ok (Except.error (AccountingFile.unreadable path cause)))
  | ok content => exact Call.Lockstep.const (Except.ok (value content))

/-- The answers that the processor use of a container is made of, apart from the host's
figures. -/
def heedsCpu (files : CpuFiles) : Answer → Bool
  | .text path _ => path = files.usage || path = files.stat
  | .time _ => true
  | .woken _ => true
  | .shares _ => false
  | .free _ => false

/-- The answers that the memory figures of a container are made of. -/
def heedsMemory (files : MemoryFiles) : Answer → Bool
  | .text path _ => path = files.usage || path = files.limit || path = files.stat
  | .free _ => true
  | .time _ => false
  | .woken _ => false
  | .shares _ => false

variable {wait : Duration} {id : String} {files : CpuFiles}

/-- Two caches agree about a container. -/
def Agree (id : String) (cache₁ cache₂ : SampleCache) : Prop :=
  Pairs.find? id cache₁ = Pairs.find? id cache₂

/-- The window of a container's counters, from its earlier sample on. -/
def windowSince (source : SampleSource σ) (wait : Duration) (files : CpuFiles)
    (previous : Option Sample) : Reading σ CounterWindow := do
  let start ← now source
  match usable? previous start with
  | some (previous, interval) => warmWindow source files previous interval start
  | none => coldWindow source files wait

theorem window_eq (source : SampleSource σ) : window source wait id files =
    (get >>= fun s => windowSince source wait files (Pairs.find? id s.samples)) := rfl

/-- Steps that begin with a look at the sample of the container. -/
private theorem lockstep_sample {then₁ : Option Sample → Reading σ β}
    {thenHeard₁ : Option Sample → Reading (σ × List Answer) β}
    {then₂ : Option Sample → Reading τ β}
    {thenHeard₂ : Option Sample → Reading (τ × List Answer) β}
    (hthen : ∀ sample, Reading.Lockstep (Agree id) (then₁ sample) (thenHeard₁ sample) (then₂ sample)
      (thenHeard₂ sample)) :
    Reading.Lockstep (Agree id) (get >>= fun s => then₁ (Pairs.find? id s.samples))
      (get >>= fun s => thenHeard₁ (Pairs.find? id s.samples))
      (get >>= fun s => then₂ (Pairs.find? id s.samples))
      (get >>= fun s => thenHeard₂ (Pairs.find? id s.samples)) where
  left s notes := (hthen (Pairs.find? id s.samples)).left s notes
  right t notes := (hthen (Pairs.find? id t.samples)).right t notes
  leftKeeps s := (hthen (Pairs.find? id s.samples)).leftKeeps s
  rightKeeps t := (hthen (Pairs.find? id t.samples)).rightKeeps t
  decided s t hcached more₁ more₂ htold := by
    have hdecided := (hthen (Pairs.find? id s.samples)).decided s t hcached more₁ more₂
    have hsame : Pairs.find? id s.samples = Pairs.find? id t.samples := hcached
    replace htold : Call.told (thenHeard₁ (Pairs.find? id s.samples)) s ++ more₁ =
      Call.told (thenHeard₂ (Pairs.find? id t.samples)) t ++ more₂ := htold
    rw [← hsame] at htold
    obtain ⟨hresult, htold⟩ := hdecided htold
    refine ⟨hresult.trans ?_, htold.trans ?_⟩
    · rw [hsame]
      rfl
    · rw [hsame]
      rfl

/-- The window of a container's counters is made of its own counters, its own sample and the
clock. -/
theorem lockstep_window :
    Reading.Lockstep (Agree id) (window source₁ wait id files)
      (window (source₁.listened (heedsCpu files)) wait id files) (window source₂ wait id files)
      (window (source₂.listened (heedsCpu files)) wait id files) := by
  have hnow : Reading.Lockstep (Agree id) (now source₁) (now (source₁.listened (heedsCpu files)))
      (now source₂) (now (source₂.listened (heedsCpu files))) :=
    .ask (by simp) (fun _ => rfl) _ _
  have hsleep : Reading.Lockstep (Agree id) (ExceptT.lift (Call.ask (source₁.sleep wait)))
      (ExceptT.lift (Call.ask ((source₁.listened (heedsCpu files)).sleep wait)))
      (ExceptT.lift (Call.ask (source₂.sleep wait)))
      (ExceptT.lift (Call.ask ((source₂.listened (heedsCpu files)).sleep wait))) :=
    .ask (by simp) (fun _ => rfl) _ _
  have hcounters : Reading.Lockstep (Agree id) (readCounters source₁ files)
      (readCounters (source₁.listened (heedsCpu files)) files) (readCounters source₂ files)
      (readCounters (source₂.listened (heedsCpu files)) files) :=
    lockstep_readFile (by simp [heedsCpu]) _
  rw [window_eq, window_eq, window_eq, window_eq]
  refine lockstep_sample fun previous => hnow.bind fun start => ?_
  cases usable? previous start with
  | some found => exact hcounters.bind fun _ => .pure _
  | none =>
    refine hcounters.bind fun before => hnow.bind fun begun => hsleep.bind fun _ => ?_
    exact hcounters.bind fun current => hnow.bind fun finish => .pure _

private theorem lockstep_readCpu :
    Reading.Lockstep (Agree id) (readCpu source₁ wait id files)
      (readCpu (source₁.listened (heedsCpu files)) wait id files)
      (readCpu source₂ wait id files)
      (readCpu (source₂.listened (heedsCpu files)) wait id files) :=
  lockstep_window.bind fun _ => (lockstep_readFile (by simp [heedsCpu]) _).bind fun _ => .pure _

/-- The host's figures are not heeded. -/
private theorem quiet_hostShares (source : SampleSource σ) :
    Call.Quiet (hostShares (source.listened (heedsCpu files))) := by
  refine (Call.Quiet.ask (fun _ => rfl) source.hostShares).bind fun answer => ?_
  cases answer with
  | ok shares => exact .pure shares
  | error cause => exact (Call.Quiet.notice _).bind fun _ => .pure []

/-- A call for the processor use of a container is told nothing once it has read the files. -/
private theorem told_cpu (source : SampleSource σ) (s : Session σ) :
    Call.told (cpu (source.listened (heedsCpu files)) wait id files) s =
      Call.told (readCpu (source.listened (heedsCpu files)) wait id files).run s := by
  refine Call.told_bind_of_quiet (fun read => ?_) s
  cases read with
  | error cause => exact .pure _
  | ok figures =>
    obtain ⟨window, user, system⟩ := figures
    have hreport : Call.Quiet (do
        let host ← hostShares (source.listened (heedsCpu files))
        let cores ← Call.checked
          (computeCoreUsage window.before window.current window.interval user system host)
        return Except.ok cores : Call (σ × List Answer) (Except CrawlError _)) :=
      (quiet_hostShares source).bind fun _ => (Call.Quiet.checked _).bind fun _ => .pure _
    refine Call.Quiet.bind (fun _ => rfl) fun _ => ?_
    dsimp only
    split
    · exact (Call.Quiet.notice _).bind fun _ => hreport
    · exact hreport

end Sampler

/-- The figures of a core that the host has no part in. -/
structure OwnFigures (α : Type) where
  /-- What is left of the core. -/
  idle : α
  /-- The part of the busy time spent in the system. -/
  system : α
  /-- The part of the busy time spent in programs. -/
  user : α
  /-- The busy time. -/
  utilization : α

/-- The figures of a core without those of the host. -/
def CoreUsage.own {α : Type} (core : CoreUsage α) : OwnFigures α :=
  ⟨core.idle, core.system, core.user, core.utilization⟩

/-- The host's figures change none of a container's own. -/
theorem map_own_coreUsages {α : Type} [Figure α] (weights : TickWeights α) (seconds : α)
    (before current : List UInt64) (host₁ host₂ : List (HostShares α)) :
    (coreUsages weights seconds before current host₁).map CoreUsage.own =
      (coreUsages weights seconds before current host₂).map CoreUsage.own := by
  induction before generalizing current host₁ host₂ with
  | nil => simp [coreUsages]
  | cons first befores ih =>
    cases current with
    | nil => simp [coreUsages]
    | cons now currents =>
      rw [coreUsages, coreUsages, List.map_cons, List.map_cons, ih currents host₁.tail host₂.tail]
      rfl

namespace Sampler

variable {source₁ : SampleSource σ} {source₂ : SampleSource τ} {s : Session σ} {t : Session τ}
  {wait : Duration} {id : String}

/-- Readings that come to figures of the cores have their use in them. -/
private theorem CpuReadings.of_outcome {r : CpuReadings}
    {result : Except CrawlError (List (CoreUsage Float))} (h : r.outcome = .ok result) :
    ∃ cores, result = .ok cores ∧ computeCoreUsage r.window.before r.window.current
      r.window.interval r.user r.system r.shares = .ok cores := by
  rw [outcome] at h
  split at h
  · cases h
  · split at h
    · cases h
    · next cores hcores => exact ⟨cores, (Except.ok.inj h).symm, hcores⟩

/-- The host's figures change none of a container's own. -/
private theorem computeCoreUsage_own {before current : List UInt64} {interval : Duration}
    {user system : UInt64} {host₁ host₂ : List (HostShares Float)}
    {cores₁ cores₂ : List (CoreUsage Float)}
    (h₁ : computeCoreUsage before current interval user system host₁ = .ok cores₁)
    (h₂ : computeCoreUsage before current interval user system host₂ = .ok cores₂) :
    cores₁.map CoreUsage.own = cores₂.map CoreUsage.own := by
  rw [computeCoreUsage] at h₁ h₂
  cases hweights : tickWeights (α := Float) user system with
  | error cause =>
    rw [hweights] at h₁
    cases h₁
  | ok weights =>
    rw [hweights] at h₁ h₂
    obtain rfl := Except.ok.inj h₁
    obtain rfl := Except.ok.inj h₂
    exact map_own_coreUsages ..

/-- Two calls for the processor use of a container that have the same sample of before and are
told the same by the container's files and the clock come to the same figures of its own. -/
theorem cpu_own_eq {files : CpuFiles} (hagree : Agree id s.samples t.samples)
    (htold : Call.told (cpu (source₁.listened (heedsCpu files)) wait id files) s =
      Call.told (cpu (source₂.listened (heedsCpu files)) wait id files) t)
    {result₁ result₂ : Except CrawlError (List (CoreUsage Float))}
    (h₁ : (cpu source₁ wait id files s).1 = .ok result₁)
    (h₂ : (cpu source₂ wait id files t).1 = .ok result₂) :
    result₁.map (List.map CoreUsage.own) = result₂.map (List.map CoreUsage.own) := by
  rw [told_cpu, told_cpu] at htold
  obtain ⟨hsame, _⟩ := lockstep_readCpu.decided s t hagree [] [] (by simpa using htold)
  replace hsame : (readCpu source₁ wait id files s).1 = (readCpu source₂ wait id files t).1 := hsame
  generalize hcpu₁ : cpu source₁ wait id files s = out₁ at h₁
  generalize hcpu₂ : cpu source₂ wait id files t = out₂ at h₂
  obtain ⟨outcome₁, s₁⟩ := out₁
  obtain ⟨outcome₂, t₁⟩ := out₂
  cases cpu_course hcpu₁ with
  | stopped hfiles₁ hasks₁ => cases h₁
  | unread hfiles₁ hasks₁ =>
    rw [hfiles₁] at hsame
    obtain rfl := Except.ok.inj h₁
    cases cpu_course hcpu₂ with
    | stopped hfiles₂ hasks₂ => cases h₂
    | unread hfiles₂ hasks₂ =>
      rw [hfiles₂] at hsame
      obtain rfl := Except.error.inj (Except.ok.inj hsame)
      obtain rfl := Except.ok.inj h₂
      rfl
    | sampled hfiles₂ hhost₂ hread₂ htells₂ =>
      rw [hfiles₂] at hsame
      cases hsame
  | @sampled r₁ _ _ hfiles₁ hhost₁ hread₁ htells₁ =>
    rw [hfiles₁] at hsame
    obtain ⟨cores₁, rfl, hcores₁⟩ := CpuReadings.of_outcome h₁
    cases cpu_course hcpu₂ with
    | stopped hfiles₂ hasks₂ => cases h₂
    | unread hfiles₂ hasks₂ =>
      rw [hfiles₂] at hsame
      cases hsame
    | @sampled r₂ _ _ hfiles₂ hhost₂ hread₂ htells₂ =>
      rw [hfiles₂] at hsame
      obtain ⟨hwindow, huser, hsystem⟩ : r₁.window = r₂.window ∧ r₁.user = r₂.user ∧
          r₁.system = r₂.system := by simpa using hsame
      obtain ⟨cores₂, rfl, hcores₂⟩ := CpuReadings.of_outcome h₂
      rw [hwindow, huser, hsystem] at hcores₁
      exact congrArg Except.ok (computeCoreUsage_own hcores₁ hcores₂)

/-- Two calls for the memory figures of a container that are told the same by the container's
files and the host come to the same. -/
theorem memory_eq {files : MemoryFiles}
    (htold : Call.told (memory (source₁.listened (heedsMemory files)) id files) s =
      Call.told (memory (source₂.listened (heedsMemory files)) id files) t) :
    (memory source₁ id files s).1 = (memory source₂ id files t).1 := by
  have hlockstep : Call.Lockstep (fun _ _ => True) (memory source₁ id files)
      (memory (source₁.listened (heedsMemory files)) id files) (memory source₂ id files)
      (memory (source₂.listened (heedsMemory files)) id files) := by
    have hfile {α : Type} {path : String} (value : String → Except IoError α)
        (hpath : path = files.usage ∨ path = files.limit ∨ path = files.stat) :
        Reading.Lockstep (fun _ _ => True) (readFile source₁ path value)
          (readFile (source₁.listened (heedsMemory files)) path value)
          (readFile source₂ path value)
          (readFile (source₂.listened (heedsMemory files)) path value) :=
      lockstep_readFile (fun _ => by simpa [heedsMemory, or_assoc] using hpath) value
    have hfree : Reading.Lockstep (fun _ _ => True) (ExceptT.lift (Call.ask source₁.hostFree))
        (ExceptT.lift (Call.ask (source₁.listened (heedsMemory files)).hostFree))
        (ExceptT.lift (Call.ask source₂.hostFree))
        (ExceptT.lift (Call.ask (source₂.listened (heedsMemory files)).hostFree)) :=
      .ask (by simp) (fun _ => rfl) _ _
    refine Call.Lockstep.bind ?_ fun read => .const (.ok (failed id read))
    refine Reading.Lockstep.bind (hfile files.cachedBuffered (by simp)) fun sizes => ?_
    refine Reading.Lockstep.bind (hfile files.limitBytes (by simp)) fun limit => ?_
    refine Reading.Lockstep.bind (hfile files.usedBytes (by simp)) fun used => ?_
    refine Reading.Lockstep.bind hfree fun answer => ?_
    cases answer with
    | error cause => exact Call.Lockstep.const (Except.ok (Except.error cause))
    | ok free => exact .pure _
  exact (hlockstep.decided s t trivial [] [] (by simpa using htold)).1

end Sampler

end Periscope
