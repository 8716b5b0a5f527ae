import Periscope.Proofs.Memory.Readings
import Periscope.Proofs.Sampling.Course

/-!
# What a call for memory figures comes to

A call for the memory figures of a container reads the three files, asks the host and derives the
figures. It stops at the first failure, and does nothing else to the session.
-/

namespace Periscope

namespace MemoryReadings

variable (files : MemoryFiles) (r : MemoryReadings)

/-- What a call for the memory figures of a container comes to. -/
inductive Verdict (id : String) :
    Except Halt (Except CrawlError (MemoryUsage Float)) → Prop where
  /-- All numbers were told, and the figures are derived from them. -/
  | told {used limit hostFree cached active : UInt64}
      (hfiles : r.FilesTell files used limit cached active)
      (hhost : r.host = .ok (.ok hostFree)) :
      Verdict id (.ok (.ok (deriveMemory used limit hostFree cached active)))
  /-- The first failure is reported. -/
  | failed {step : MemoryStep} {message : String} (hfirst : r.FailsFirst files step message) :
      Verdict id (.ok (.error (.resourceSample id message)))
  /-- Asking the host stopped the call, with nothing else in the way. -/
  | stopped {cause : Panic} (hpasses : ∀ step, r.Passes files step)
      (hhost : r.host = .error cause) : Verdict id (.error (.panicked cause))

/-- What the steps come to: the numbers of the files, then that of the host. -/
def outcome : Except Halt (Except IoError (MemoryUsage Float)) :=
  match r.numbers files with
  | .error cause => .ok (.error cause)
  | .ok (cached, active, limit, used) =>
    match r.host with
    | .error cause => .error (.panicked cause)
    | .ok (.error cause) => .ok (.error cause)
    | .ok (.ok hostFree) => .ok (.ok (deriveMemory used limit hostFree cached active))

variable {files r} {id : String} {step : MemoryStep}

/-- The host's answer is the last step. -/
private theorem passes_of_passesTo (hbefore : r.PassesTo files .host)
    (hhost : r.Passes files .host) (step : MemoryStep) : r.Passes files step := by
  by_cases hstep : step = .host
  · exact hstep ▸ hhost
  · refine hbefore step ?_
    cases step <;> first | decide | exact absurd rfl hstep

private theorem passes_host_of_error {cause : Panic} (hhost : r.host = .error cause) :
    r.Passes files .host := by
  rw [passes_iff, failure?, hhost]
  rfl

/-- The steps come to a verdict. -/
private theorem outcome_verdict :
    r.Verdict files id ((r.outcome files).map (Sampler.failed id)) := by
  rw [outcome]
  rcases numbers_course files r with ⟨cause, step, hnumbers, hfirst⟩ |
    ⟨used, limit, cached, active, hnumbers, hfiles, hbefore⟩
  · rw [hnumbers]
    exact .failed hfirst
  · rw [hnumbers]
    rcases hhost : r.host with cause | cause | hostFree
    · exact .stopped (passes_of_passesTo hbefore (passes_host_of_error hhost)) hhost
    · exact .failed ⟨.host hhost, hbefore⟩
    · exact .told hfiles hhost

/-- There is no other verdict. -/
private theorem Verdict.eq_outcome {result : Except Halt (Except CrawlError (MemoryUsage Float))}
    (h : r.Verdict files id result) : result = (r.outcome files).map (Sampler.failed id) := by
  cases h with
  | told hfiles hhost =>
    simp only [outcome, numbers_of_filesTell hfiles, hhost]
    rfl
  | @failed step message hfirst =>
    rcases numbers_course files r with ⟨cause, other, hnumbers, hother⟩ |
      ⟨used, limit, cached, active, hnumbers, _, hbefore⟩
    · rw [outcome, hnumbers, hfirst.unique hother]
      rfl
    · by_cases hstep : step = .host
      · subst hstep
        cases hfirst.fails with
        | host hhost =>
          simp only [outcome, hnumbers, hhost]
          rfl
      · refine absurd hfirst.fails (hbefore step ?_ message)
        cases step <;> first | decide | exact absurd rfl hstep
  | stopped hpasses hhost =>
    rcases numbers_course files r with ⟨cause, other, _, hother⟩ |
      ⟨used, limit, cached, active, hnumbers, _, _⟩
    · exact absurd hother.fails (hpasses other _)
    · simp only [outcome, hnumbers, hhost]
      rfl

/-- The verdict is what the steps come to. -/
theorem verdict_iff {result : Except Halt (Except CrawlError (MemoryUsage Float))} :
    r.Verdict files id result ↔ (r.outcome files).map (Sampler.failed id) = result := by
  refine ⟨fun h => h.eq_outcome.symm, ?_⟩
  rintro rfl
  exact outcome_verdict

end MemoryReadings

namespace Sampler

variable {σ α β : Type} {source : SampleSource σ} {files : MemoryFiles} {s s₁ : Session σ}

/-- Reading a file asks the world for its text; an error of the file ends the steps. -/
private theorem readFile_bind {path : String} {value : String → Except IoError α} {w w' : σ}
    {text : Except IoError String} (f : α → Reading σ β)
    (h : source.readText path w = (text, w')) :
    (readFile source path value >>= f) { s with world := w } =
      match AccountingFile.valueOf path value text with
      | .error cause => (.ok (.error cause), { s with world := w' })
      | .ok x => f x { s with world := w' } := by
  have hread : readFile source path value { s with world := w } =
      (.ok (AccountingFile.valueOf path value text), { s with world := w' }) := by
    rw [readFile_apply, h]
  cases hvalue : AccountingFile.valueOf path value text with
  | error cause => exact Reading.bind_of_error f (hvalue ▸ hread)
  | ok x => exact Reading.bind_of_ok f (hvalue ▸ hread)

/-- Asking the world; an answer out of range stops the steps. -/
private theorem ask_bind {answer : σ → Except Panic α × σ} {w w' : σ} {result : Except Panic α}
    (f : α → Reading σ β) (h : answer w = (result, w')) :
    (ExceptT.lift (Call.ask answer) >>= f : Reading σ β) { s with world := w } =
      match result with
      | .error cause => (.error (.panicked cause), { s with world := w' })
      | .ok x => f x { s with world := w' } := by
  have hask : Call.ask answer { s with world := w } =
      Call.checked (answer w).1 { s with world := (answer w).2 } := rfl
  rw [h] at hask
  cases result with
  | error cause =>
    have hlift : (ExceptT.lift (Call.ask answer) : Reading σ α) { s with world := w } =
      (.error (.panicked cause), { s with world := w' }) := Call.bind_of_error _ hask
    exact Reading.bind_of_halt f hlift
  | ok x =>
    have hlift : (ExceptT.lift (Call.ask answer) : Reading σ α) { s with world := w } =
      (.ok (.ok x), { s with world := w' }) := Call.bind_of_ok _ hask
    exact Reading.bind_of_ok f hlift

/-- The part of a call for the memory figures of a container that may fail. -/
def readMemory (source : SampleSource σ) (files : MemoryFiles) :
    Reading σ (MemoryUsage Float) := do
  let (cached, buffered) ← readFile source files.stat files.cachedBuffered
  let limit ← readFile source files.limit files.limitBytes
  let used ← readFile source files.usage files.usedBytes
  match ← ExceptT.lift (Call.ask source.hostFree) with
  | .error cause => throw cause
  | .ok hostFree => return deriveMemory used limit hostFree cached buffered

/-- The steps of a call come to what the answers of the world come to. -/
theorem readMemory_outcome :
    (readMemory source files s).1 = (source.memoryReadings files s.world).outcome files := by
  rcases hstat : source.readText files.stat s.world with ⟨stat, w₁⟩
  rcases hlimit : source.readText files.limit w₁ with ⟨limit, w₂⟩
  rcases husage : source.readText files.usage w₂ with ⟨usage, w₃⟩
  rcases hhost : source.hostFree w₃ with ⟨host, w₄⟩
  have hreadings : source.memoryReadings files s.world = ⟨stat, limit, usage, host⟩ := by
    simp only [SampleSource.memoryReadings, hstat, hlimit, husage, hhost]
  rw [hreadings, MemoryReadings.outcome, MemoryReadings.numbers_eq, readMemory,
    readFile_bind (s := s) _ hstat]
  dsimp only
  cases AccountingFile.valueOf files.stat files.cachedBuffered stat with
  | error cause => rfl
  | ok sizes =>
  obtain ⟨cached, active⟩ := sizes
  dsimp only
  rw [readFile_bind _ hlimit]
  cases AccountingFile.valueOf files.limit files.limitBytes limit with
  | error cause => rfl
  | ok bound =>
  dsimp only
  rw [readFile_bind _ husage]
  cases AccountingFile.valueOf files.usage files.usedBytes usage with
  | error cause => rfl
  | ok used =>
  dsimp only
  rw [ask_bind _ hhost]
  rcases host with cause | cause | hostFree
  · rfl
  · rfl
  · rfl

/-- A call names the container in its error. -/
theorem memory_outcome (id : String) : (memory source id files s).1 =
    ((source.memoryReadings files s.world).outcome files).map (failed id) := by
  have hbind : memory source id files s =
      ((readMemory source files).run >>= fun result => pure (failed id result)) s := rfl
  rcases hread : readMemory source files s with ⟨read, s₁⟩
  have hrun : (readMemory source files).run s = (read, s₁) := hread
  rw [← readMemory_outcome, hbind, hread]
  cases read with
  | error halt =>
    rw [Call.bind_of_error _ hrun]
    rfl
  | ok result =>
    rw [Call.bind_of_ok _ hrun]
    rfl

private theorem asks_throw (cause : IoError) : Reading.Asks (throw cause : Reading σ α) where
  asks h := by
    obtain ⟨_, rfl⟩ := Call.of_pure h
    exact ⟨_, rfl⟩
  halts h := by
    obtain ⟨hout, _⟩ := Call.of_pure h
    cases hout

private theorem asks_readMemory : Reading.Asks (readMemory source files) := by
  refine (asks_readFile _ _).bind fun sizes => (asks_readFile _ _).bind fun limit => ?_
  refine (asks_readFile _ _).bind fun used => (Reading.asks_ask _).bind fun hostFree => ?_
  cases hostFree with
  | error cause => exact asks_throw cause
  | ok hostFree => exact Reading.asks_pure _

/-- A call only asks the world. -/
private theorem memory_asks (id : String) : s.Asks (memory source id files s).2 := by
  have hbind : memory source id files s = (_, (memory source id files s).2) := rfl
  rcases Call.of_bind hbind with ⟨read, s₁, hread, hrest⟩ | ⟨halt, hread, _⟩
  · obtain ⟨_, hsame⟩ := Call.of_pure hrest
    rw [hsame]
    exact asks_readMemory.asks hread
  · exact asks_readMemory.asks hread

/-- **Memory figures are told in full, or the first failure is.** In either layout and whatever the
three files and the host answer, a call for the memory figures of a container returns them exactly
if the stat file says both sizes, the limit file spells a number or that there is no limit, the
usage file spells a number and the host tells its free memory; and they are derived from just these
numbers. Otherwise the call returns one error that names the container, with the text of the first
step that fails, unless none does and asking the host stops the call. It does nothing but ask. -/
theorem memory_told_in_full (source : SampleSource σ) (id : String) (files : MemoryFiles)
    (s : Session σ) :
    (∀ result, (memory source id files s).1 = result ↔
      (source.memoryReadings files s.world).Verdict files id result) ∧
    s.Asks (memory source id files s).2 := by
  refine ⟨fun result => ?_, memory_asks id⟩
  rw [memory_outcome, MemoryReadings.verdict_iff]

end Sampler

end Periscope
