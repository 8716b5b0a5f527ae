import Periscope.Proofs.Host.FreeMemory
import Periscope.Proofs.Memory.Verdict

/-!
# Free memory that is too large

The memory file tells kibibytes, and they are counted in bytes by a product that is checked. So a
file that tells too many stops the call, but only once all files of the container have been read.
-/

namespace Periscope

variable {σ : Type}

/-- The source whose host memory is what the memory file below a directory says. -/
def SampleSource.withMemoryFile (source : SampleSource σ) (root : String) : SampleSource σ :=
  { source with
    hostFree := fun w =>
      let (text, w) := source.readText (hostMemoryPath root) w
      (readFreeMemory (hostMemoryPath root) text, w) }

/-- The text of the memory file, if it is read behind the files of a container. -/
def SampleSource.memoryFileText (source : SampleSource σ) (root : String) (files : MemoryFiles)
    (w : σ) : Except IoError String :=
  let (_, w) := source.readText files.stat w
  let (_, w) := source.readText files.limit w
  let (_, w) := source.readText files.usage w
  (source.readText (hostMemoryPath root) w).1

/-- The files of a container tell their numbers, and the text of the memory file tells more free
kibibytes than can be counted in bytes. -/
structure MemoryReadings.TooLarge (files : MemoryFiles) (r : MemoryReadings)
    (text : Except IoError String) : Prop where
  /-- The files tell their numbers. -/
  files : ∃ used limit cached active, r.FilesTell files used limit cached active
  /-- The memory file tells too much. -/
  free : ∃ content kibibytes, text = .ok content ∧ TellsFree content kibibytes ∧
    UInt64.size ≤ 1024 * kibibytes.toNat

namespace Sampler

variable {source : SampleSource σ} {root id : String} {files : MemoryFiles} {s : Session σ}

/-- The host's answer is what the memory file says. -/
private theorem host_withMemoryFile (w : σ) :
    ((source.withMemoryFile root).memoryReadings files w).host =
      readFreeMemory (hostMemoryPath root) (source.memoryFileText root files w) := rfl

/-- A call is stopped by free memory that is too large, and by nothing else. -/
private theorem memory_stopped_iff {halt : Halt} :
    (memory (source.withMemoryFile root) id files s).1 = .error halt ↔
      halt = .panicked .productOverflow ∧
        ((source.withMemoryFile root).memoryReadings files s.world).TooLarge files
          (source.memoryFileText root files s.world) := by
  have hhost : ((source.withMemoryFile root).memoryReadings files s.world).host = _ :=
    host_withMemoryFile s.world
  rw [memory_outcome]
  generalize (source.withMemoryFile root).memoryReadings files s.world = r at hhost ⊢
  generalize source.memoryFileText root files s.world = text at hhost ⊢
  constructor
  · intro h
    have hverdict : r.Verdict files id (.error halt) := MemoryReadings.verdict_iff.mpr h
    cases hverdict with
    | stopped hpasses hstop =>
      have hending := readFreeMemory_eq_iff.mp (hhost.symm.trans hstop)
      cases hending with
      | @tooLarge content kibibytes htold hsize =>
        rcases MemoryReadings.numbers_course files r with ⟨cause, step, _, hfirst⟩ |
          ⟨used, limit, cached, active, _, htell, _⟩
        · exact absurd hfirst.fails (hpasses step _)
        · exact ⟨rfl, ⟨used, limit, cached, active, htell⟩, content, kibibytes, rfl, htold, hsize⟩
  · rintro ⟨rfl, ⟨used, limit, cached, active, htell⟩, content, kibibytes, rfl, htold, hsize⟩
    have hstop : r.host = .error .productOverflow := by
      rw [hhost, readFreeMemory_eq_iff]
      exact .tooLarge htold hsize
    simp only [MemoryReadings.outcome, MemoryReadings.numbers_of_filesTell htell, hstop]
    rfl

/-- A call that is not stopped returns figures, or an error that names the container. -/
private theorem memory_returns (source : SampleSource σ) (id : String) (files : MemoryFiles)
    (s : Session σ) : (∃ halt, (memory source id files s).1 = .error halt) ∨
      (∃ usage, (memory source id files s).1 = .ok (.ok usage)) ∨
        ∃ message, (memory source id files s).1 = .ok (.error (.resourceSample id message)) := by
  rw [memory_outcome]
  rcases (source.memoryReadings files s.world).outcome files with halt | cause | usage
  · exact .inl ⟨halt, rfl⟩
  · exact .inr (.inr ⟨cause.message, rfl⟩)
  · exact .inr (.inl ⟨usage, rfl⟩)

/-- **Free memory that is too large stops a call, and nothing else does.** Whatever the memory file
says: if no line tells a number there is an error of the data, otherwise the first number that is
told is returned in bytes if there are no more bytes than a word holds, and if there are more the
reading is stopped. A call for the memory figures of a container is stopped if and only if it is
for this reason, with the files of the container all read. Otherwise it returns figures, or an
error that names the container. -/
theorem free_memory_ending (source : SampleSource σ) (root id : String) (files : MemoryFiles)
    (s : Session σ) :
    let tooLarge := ((source.withMemoryFile root).memoryReadings files s.world).TooLarge files
      (source.memoryFileText root files s.world)
    let outcome := (memory (source.withMemoryFile root) id files s).1
    (∀ text result, readFreeMemory (hostMemoryPath root) text = result ↔
      FreeEnding (hostMemoryPath root) text result) ∧
    (tooLarge → outcome = .error (.panicked .productOverflow)) ∧
    (¬ tooLarge → (∃ usage, outcome = .ok (.ok usage)) ∨
      ∃ message, outcome = .ok (.error (.resourceSample id message))) := by
  refine ⟨fun text result => readFreeMemory_eq_iff,
    fun htoo => memory_stopped_iff.mpr ⟨rfl, htoo⟩, fun hnot => ?_⟩
  rcases memory_returns (source.withMemoryFile root) id files s with ⟨halt, hstop⟩ | hreturns
  · exact absurd (memory_stopped_iff.mp hstop).2 hnot
  · exact hreturns

/-- A host that claims to have as many kibibytes free as a word has bytes. -/
private def vastText : String := "MemFree: 18014398509481984 kB\n"

/-- A container whose files can be read, on such a host. -/
private def vastSource : SampleSource Unit :=
  SampleSource.withMemoryFile
    { readText := fun path w =>
        (.ok (if path = "proc/meminfo" then vastText
          else if path = "stat" then "total_cache 3\ntotal_active_file 4\n" else "5\n"), w)
      now := fun w => (.ok ⟨0⟩, w)
      sleep := fun _ w => (.ok (), w)
      hostShares := fun w => (.ok (.ok []), w)
      hostFree := fun w => (.ok (.ok 0), w) }
    "proc"

/-- Its memory file can be read and tells a number, and yet neither call returns. -/
theorem free_memory_stops_on_vast_host :
    readFreeMemory (hostMemoryPath "proc") (.ok vastText) = .error .productOverflow ∧
    (memory vastSource "a" ⟨"stat", "limit", "usage", .v1⟩ { world := () }).1 =
      .error (.panicked .productOverflow) :=
  ⟨rfl, rfl⟩

end Sampler

end Periscope
