import Periscope.Cgroup.Sampler
import Periscope.Proofs.Text.KeyedFile

/-!
# What a container's memory files must say

The figures of a container are made of five numbers, which three files and the host tell in a fixed
order. Only if all are told are there figures. Otherwise the first step that failed is reported,
with the file and the cause.
-/

namespace Periscope

namespace MemoryFiles

/-- The key of the page cache in the stat file. -/
def cacheKey (files : MemoryFiles) : String :=
  match files.layout with
  | .v1 => "total_cache"
  | .v2 => "file"

/-- The key of the active file pages in the stat file. -/
def activeFileKey (files : MemoryFiles) : String :=
  match files.layout with
  | .v1 => "total_active_file"
  | .v2 => "active_file"

end MemoryFiles

/-- What is answered if the files and the host are asked for a container's figures, in order. -/
structure MemoryReadings where
  /-- The text of the stat file. -/
  stat : Except IoError String
  /-- The text of the limit file. -/
  limit : Except IoError String
  /-- The text of the usage file. -/
  usage : Except IoError String
  /-- The free memory of the host, if it can be told. -/
  host : Except Panic (Except IoError UInt64)

/-- The answers of a world to a call for the memory figures. -/
def SampleSource.memoryReadings {σ : Type} (source : SampleSource σ) (files : MemoryFiles)
    (w : σ) : MemoryReadings :=
  let (stat, w) := source.readText files.stat w
  let (limit, w) := source.readText files.limit w
  let (usage, w) := source.readText files.usage w
  { stat, limit, usage, host := (source.hostFree w).1 }

/-- The steps of reading the memory figures. -/
inductive MemoryStep where
  /-- Reading the stat file. -/
  | stat
  /-- Finding the page cache in it. -/
  | cached
  /-- Finding the active file pages in it. -/
  | active
  /-- Reading the limit. -/
  | limit
  /-- Reading the size in use. -/
  | usage
  /-- Asking for the free memory of the host. -/
  | host
  deriving Repr, DecidableEq

/-- The place of a step in their order. -/
def MemoryStep.rank : MemoryStep → Nat
  | stat => 0
  | cached => 1
  | active => 2
  | limit => 3
  | usage => 4
  | host => 5

/-- A limit as its file spells it: the word for none, or a number. -/
inductive LimitText (content : String) : UInt64 → Prop where
  /-- There is no limit. -/
  | none (hmax : Text.trim content = "max") : LimitText content unlimited
  /-- The limit is a number. -/
  | number {n : UInt64} (hword : SpellsWord (Text.trim content) n) : LimitText content n

namespace MemoryReadings

variable (files : MemoryFiles) (r : MemoryReadings)

/-- The files tell these four numbers. -/
structure FilesTell (used limit cached active : UInt64) : Prop where
  /-- The stat file says both sizes. -/
  stat : ∃ content, r.stat = .ok content ∧ Keyed content files.cacheKey cached ∧
    Keyed content files.activeFileKey active
  /-- The limit file spells the limit. -/
  limit : ∃ content, r.limit = .ok content ∧ LimitText content limit
  /-- The usage file spells the size in use. -/
  usage : ∃ content, r.usage = .ok content ∧ SpellsWord (Text.trim content) used

/-- A step fails, and this is the text of its failure. A step that has no file to look at does not
fail. -/
inductive Fails : MemoryStep → String → Prop where
  /-- The stat file cannot be read. -/
  | stat {cause : IoError} (hread : r.stat = .error cause) :
      Fails .stat (files.stat ++ ": " ++ cause.message)
  /-- The stat file does not say the size of the page cache. -/
  | cached {content : String} (hread : r.stat = .ok content)
      (hmissing : ∀ n, ¬ Keyed content files.cacheKey n) :
      Fails .cached (files.stat ++ ": " ++ ("missing key " ++ files.cacheKey))
  /-- The stat file does not say the size of the active file pages. -/
  | active {content : String} (hread : r.stat = .ok content)
      (hmissing : ∀ n, ¬ Keyed content files.activeFileKey n) :
      Fails .active (files.stat ++ ": " ++ ("missing key " ++ files.activeFileKey))
  /-- The limit file cannot be read. -/
  | limitUnread {cause : IoError} (hread : r.limit = .error cause) :
      Fails .limit (files.limit ++ ": " ++ cause.message)
  /-- The limit file spells no limit. -/
  | limit {content : String} {e : NumeralError} (hread : r.limit = .ok content)
      (hmax : Text.trim content ≠ "max") (hword : MisspellsWord (Text.trim content) e) :
      Fails .limit (files.limit ++ ": " ++ e.message)
  /-- The usage file cannot be read. -/
  | usageUnread {cause : IoError} (hread : r.usage = .error cause) :
      Fails .usage (files.usage ++ ": " ++ cause.message)
  /-- The usage file spells no size. -/
  | usage {content : String} {e : NumeralError} (hread : r.usage = .ok content)
      (hword : MisspellsWord (Text.trim content) e) :
      Fails .usage (files.usage ++ ": " ++ e.message)
  /-- The host cannot tell its free memory. -/
  | host {cause : IoError} (hhost : r.host = .ok (.error cause)) : Fails .host cause.message

/-- A step does not fail. -/
def Passes (step : MemoryStep) : Prop := ∀ message, ¬ r.Fails files step message

/-- No step before this one fails. -/
def PassesTo (step : MemoryStep) : Prop :=
  ∀ earlier : MemoryStep, earlier.rank < step.rank → r.Passes files earlier

/-- A step fails, and none before it. -/
structure FailsFirst (step : MemoryStep) (message : String) : Prop where
  /-- The step fails. -/
  fails : r.Fails files step message
  /-- Those before it do not. -/
  earlier : r.PassesTo files step

end MemoryReadings

/-! ## The steps, as they are made -/

/-- The error in a result. -/
def failureIn {ε α : Type} : Except ε α → Option ε
  | .error cause => some cause
  | .ok _ => none

theorem failureIn_eq_some {ε α : Type} {result : Except ε α} {cause : ε} :
    failureIn result = some cause ↔ result = .error cause := by
  cases result <;> simp [failureIn]

namespace AccountingFile

variable {α : Type} {path : String} {value : String → Except IoError α}
  {text : Except IoError String}

/-- A file that cannot be read. -/
theorem failureIn_unread {cause : IoError} (hread : text = .error cause) :
    failureIn (valueOf path value text) = some (unreadable path cause) :=
  failureIn_eq_some.mpr (valueOf_eq_error_iff.mpr (.inl ⟨cause, hread, rfl⟩))

/-- A file whose text does not have the value. -/
theorem failureIn_of_text {content : String} {cause : IoError} (hread : text = .ok content)
    (hvalue : value content = .error cause) : failureIn (valueOf path value text) = some cause :=
  failureIn_eq_some.mpr (valueOf_eq_error_iff.mpr (.inr ⟨content, hread, hvalue⟩))

end AccountingFile

namespace MemoryFiles

variable {files : MemoryFiles} {content : String}

/-- The stat file is searched for one key after the other. -/
theorem cachedBuffered_eq : files.cachedBuffered content = (do
    let cached ← AccountingFile.required files.stat content files.cacheKey
    let active ← AccountingFile.required files.stat content files.activeFileKey
    return (cached, active)) := by
  rw [cachedBuffered, cacheKey, activeFileKey]
  cases files.layout <;> rfl

/-- The limit is what its file spells. -/
theorem limitBytes_eq_ok_iff {n : UInt64} :
    files.limitBytes content = .ok n ↔ LimitText content n := by
  rw [limitBytes]
  split
  · next hmax =>
    constructor
    · intro h
      obtain rfl := Except.ok.inj h
      exact .none hmax
    · intro h
      cases h with
      | none => rfl
      | number hword =>
        rw [hmax, ← readWord_eq_ok_iff] at hword
        cases hword
  · next hmax =>
    rw [AccountingFile.single_eq_ok_iff]
    refine ⟨.number, fun h => ?_⟩
    cases h with
    | none hnone => exact absurd hnone hmax
    | number hword => exact hword

/-- A limit file that spells no limit. -/
theorem limitBytes_eq_error_iff {cause : IoError} :
    files.limitBytes content = .error cause ↔ Text.trim content ≠ "max" ∧
      ∃ e, MisspellsWord (Text.trim content) e ∧
        cause = AccountingFile.invalid files.limit e.message := by
  rw [limitBytes, ← AccountingFile.single_eq_error_iff]
  split <;> simp [*]

end MemoryFiles

namespace MemoryReadings

variable {files : MemoryFiles} {r : MemoryReadings} {step : MemoryStep} {message : String}

/-- The error of looking for a key in the stat file, if there is one. -/
def missing? (files : MemoryFiles) (r : MemoryReadings) (key : String) : Option IoError :=
  r.stat.toOption.bind fun content => failureIn (AccountingFile.required files.stat content key)

theorem missing?_eq_some_iff {key : String} {cause : IoError} :
    r.missing? files key = some cause ↔ ∃ content, r.stat = .ok content ∧
      (∀ n, ¬ Keyed content key n) ∧
        cause = AccountingFile.invalid files.stat ("missing key " ++ key) := by
  rw [missing?]
  cases r.stat with
  | error e => simp [Except.toOption]
  | ok content =>
    simp only [Except.toOption, Option.bind_some, failureIn_eq_some,
      AccountingFile.required_eq_error_iff, Except.ok.injEq, exists_eq_left']

/-- The error of a step, if it fails. -/
def failure? (files : MemoryFiles) (r : MemoryReadings) : MemoryStep → Option IoError
  | .stat => failureIn (AccountingFile.valueOf files.stat .ok r.stat)
  | .cached => r.missing? files files.cacheKey
  | .active => r.missing? files files.activeFileKey
  | .limit => failureIn (AccountingFile.valueOf files.limit files.limitBytes r.limit)
  | .usage => failureIn (AccountingFile.valueOf files.usage files.usedBytes r.usage)
  | .host => r.host.toOption.bind failureIn

/-- A step that fails has an error with this text. -/
private theorem failure?_of_fails (h : r.Fails files step message) :
    ∃ cause, r.failure? files step = some cause ∧ message = cause.message := by
  cases h with
  | stat hread => exact ⟨_, AccountingFile.failureIn_unread hread, rfl⟩
  | cached hread hmissing => exact ⟨_, missing?_eq_some_iff.mpr ⟨_, hread, hmissing, rfl⟩, rfl⟩
  | active hread hmissing => exact ⟨_, missing?_eq_some_iff.mpr ⟨_, hread, hmissing, rfl⟩, rfl⟩
  | limitUnread hread => exact ⟨_, AccountingFile.failureIn_unread hread, rfl⟩
  | limit hread hmax hword =>
    exact ⟨_, AccountingFile.failureIn_of_text hread
      (MemoryFiles.limitBytes_eq_error_iff.mpr ⟨hmax, _, hword, rfl⟩), rfl⟩
  | usageUnread hread => exact ⟨_, AccountingFile.failureIn_unread hread, rfl⟩
  | usage hread hword =>
    exact ⟨_, AccountingFile.failureIn_of_text hread
      (AccountingFile.single_eq_error_iff.mpr ⟨_, hword, rfl⟩), rfl⟩
  | host hhost => exact ⟨_, by rw [failure?, hhost]; rfl, rfl⟩

/-- A step that has an error fails with its text. -/
private theorem fails_of_failure? {cause : IoError} (h : r.failure? files step = some cause) :
    r.Fails files step cause.message := by
  cases step with
  | stat =>
    rcases AccountingFile.valueOf_eq_error_iff.mp (failureIn_eq_some.mp h) with
      ⟨e, hread, rfl⟩ | ⟨_, _, hnone⟩
    · exact .stat hread
    · cases hnone
  | cached =>
    obtain ⟨content, hread, hmissing, rfl⟩ := missing?_eq_some_iff.mp h
    exact .cached hread hmissing
  | active =>
    obtain ⟨content, hread, hmissing, rfl⟩ := missing?_eq_some_iff.mp h
    exact .active hread hmissing
  | limit =>
    rcases AccountingFile.valueOf_eq_error_iff.mp (failureIn_eq_some.mp h) with
      ⟨e, hread, rfl⟩ | ⟨content, hread, herror⟩
    · exact .limitUnread hread
    · obtain ⟨hmax, e, hword, rfl⟩ := MemoryFiles.limitBytes_eq_error_iff.mp herror
      exact .limit hread hmax hword
  | usage =>
    rcases AccountingFile.valueOf_eq_error_iff.mp (failureIn_eq_some.mp h) with
      ⟨e, hread, rfl⟩ | ⟨content, hread, herror⟩
    · exact .usageUnread hread
    · obtain ⟨e, hword, rfl⟩ := AccountingFile.single_eq_error_iff.mp herror
      exact .usage hread hword
  | host =>
    obtain ⟨answer, hhost, herror⟩ := Option.bind_eq_some_iff.mp h
    rw [failureIn_eq_some] at herror
    subst herror
    have hhost : r.host = .ok (.error cause) := by
      cases hanswer : r.host with
      | error => simp [hanswer, Except.toOption] at hhost
      | ok told => simpa [hanswer, Except.toOption] using hhost
    exact .host hhost

/-- The text of a failure is that of the step's error. -/
theorem fails_iff : r.Fails files step message ↔
    ∃ cause, r.failure? files step = some cause ∧ message = cause.message := by
  refine ⟨failure?_of_fails, ?_⟩
  rintro ⟨cause, hcause, rfl⟩
  exact fails_of_failure? hcause

theorem passes_iff : r.Passes files step ↔ r.failure? files step = none := by
  simp only [Passes, fails_iff]
  cases r.failure? files step <;> simp

/-- Steps are told apart by their places. -/
theorem rank_injective {a b : MemoryStep} (h : a.rank = b.rank) : a = b := by
  cases a <;> cases b <;> first | rfl | cases h

/-- A step fails in one way at most. -/
theorem Fails.unique {other : String} (h : r.Fails files step message)
    (hother : r.Fails files step other) : message = other := by
  obtain ⟨cause, hcause, rfl⟩ := fails_iff.mp h
  obtain ⟨cause', hcause', rfl⟩ := fails_iff.mp hother
  rw [Option.some.inj (hcause.symm.trans hcause')]

/-- There is one first failure at most. -/
theorem FailsFirst.unique {other : MemoryStep} {told : String}
    (h : r.FailsFirst files step message) (hother : r.FailsFirst files other told) :
    message = told := by
  rcases Nat.lt_trichotomy step.rank other.rank with hlt | heq | hgt
  · exact absurd h.fails (hother.earlier step hlt message)
  · obtain rfl := rank_injective heq
    exact h.fails.unique hother.fails
  · exact absurd hother.fails (h.earlier other hgt told)

/-! ## The numbers that are told -/

/-- The five numbers as the three files tell them, or the first error. -/
def numbers (files : MemoryFiles) (r : MemoryReadings) :
    Except IoError (UInt64 × UInt64 × UInt64 × UInt64) := do
  let content ← AccountingFile.valueOf files.stat .ok r.stat
  let cached ← AccountingFile.required files.stat content files.cacheKey
  let active ← AccountingFile.required files.stat content files.activeFileKey
  let limit ← AccountingFile.valueOf files.limit files.limitBytes r.limit
  let used ← AccountingFile.valueOf files.usage files.usedBytes r.usage
  return (cached, active, limit, used)

/-- Both keys are taken from the stat file at once. -/
theorem numbers_eq : r.numbers files = (do
    let (cached, active) ← AccountingFile.valueOf files.stat files.cachedBuffered r.stat
    let limit ← AccountingFile.valueOf files.limit files.limitBytes r.limit
    let used ← AccountingFile.valueOf files.usage files.usedBytes r.usage
    return (cached, active, limit, used)) := by
  rw [numbers]
  cases r.stat with
  | error cause => rfl
  | ok content =>
    have htext : AccountingFile.valueOf files.stat .ok (.ok content) = pure content := rfl
    have hsizes : AccountingFile.valueOf files.stat files.cachedBuffered (.ok content) =
      files.cachedBuffered content := rfl
    simp only [htext, hsizes, MemoryFiles.cachedBuffered_eq, bind_assoc, pure_bind]

/-- A step that was made has failed, or the next one is made. -/
private theorem fails_or_next {α : Type} (next : MemoryStep) {result : Except IoError α}
    (hbefore : r.PassesTo files step) (hnext : next.rank = step.rank + 1)
    (hstep : r.failure? files step = failureIn result) :
    (∃ cause, result = .error cause ∧ r.FailsFirst files step cause.message) ∨
      ∃ x, result = .ok x ∧ r.PassesTo files next := by
  cases result with
  | error cause => exact .inl ⟨cause, rfl, fails_of_failure? hstep, hbefore⟩
  | ok x =>
    refine .inr ⟨x, rfl, fun earlier hlt => ?_⟩
    rcases Nat.lt_or_eq_of_le (Nat.lt_succ_iff.mp (hnext ▸ hlt)) with hlt | heq
    · exact hbefore earlier hlt
    · obtain rfl := rank_injective heq
      exact passes_iff.mpr hstep

/-- The files tell their numbers and no step fails on them, or the first error is the first
failure. -/
theorem numbers_course (files : MemoryFiles) (r : MemoryReadings) :
    (∃ cause step, r.numbers files = .error cause ∧ r.FailsFirst files step cause.message) ∨
      ∃ used limit cached active, r.numbers files = .ok (cached, active, limit, used) ∧
        r.FilesTell files used limit cached active ∧ r.PassesTo files .host := by
  have hstart : r.PassesTo files .stat := fun _ hlt => absurd hlt (Nat.not_lt_zero _)
  -- Step by step: either this one is the first to fail, or all up to the next one pass.
  rcases fails_or_next .cached hstart rfl rfl with ⟨cause, hstat, hfirst⟩ |
    ⟨content, hstat, hbefore⟩
  · exact .inl ⟨cause, .stat, by simp only [numbers, bind, Except.bind, hstat], hfirst⟩
  obtain ⟨_, hread, hcontent⟩ := AccountingFile.valueOf_eq_ok_iff.mp hstat
  obtain rfl := (Except.ok.inj hcontent).symm
  have hkey (key : String) : r.missing? files key =
      failureIn (AccountingFile.required files.stat content key) := by
    rw [missing?, hread]
    rfl
  rcases fails_or_next .active hbefore rfl (hkey _) with ⟨cause, hcached, hfirst⟩ |
    ⟨cached, hcached, hbefore⟩
  · exact .inl ⟨cause, .cached, by simp only [numbers, bind, Except.bind, hstat, hcached], hfirst⟩
  rcases fails_or_next .limit hbefore rfl (hkey _) with ⟨cause, hactive, hfirst⟩ |
    ⟨active, hactive, hbefore⟩
  · exact .inl ⟨cause, .active,
      by simp only [numbers, bind, Except.bind, hstat, hcached, hactive], hfirst⟩
  rcases fails_or_next .usage hbefore rfl rfl with ⟨cause, hlimit, hfirst⟩ |
    ⟨limit, hlimit, hbefore⟩
  · exact .inl ⟨cause, .limit,
      by simp only [numbers, bind, Except.bind, hstat, hcached, hactive, hlimit], hfirst⟩
  rcases fails_or_next .host hbefore rfl rfl with ⟨cause, hused, hfirst⟩ | ⟨used, hused, hbefore⟩
  · exact .inl ⟨cause, .usage,
      by simp only [numbers, bind, Except.bind, hstat, hcached, hactive, hlimit, hused], hfirst⟩
  have htold : r.numbers files = .ok (cached, active, limit, used) := by
    simp only [numbers, bind, Except.bind, hstat, hcached, hactive, hlimit, hused]
    rfl
  obtain ⟨limitText, hlimitRead, hlimit⟩ := AccountingFile.valueOf_eq_ok_iff.mp hlimit
  obtain ⟨usageText, husageRead, hused⟩ := AccountingFile.valueOf_eq_ok_iff.mp hused
  exact .inr ⟨used, limit, cached, active, htold,
    ⟨⟨content, hread, AccountingFile.required_eq_ok_iff.mp hcached,
        AccountingFile.required_eq_ok_iff.mp hactive⟩,
      ⟨limitText, hlimitRead, MemoryFiles.limitBytes_eq_ok_iff.mp hlimit⟩,
      ⟨usageText, husageRead, AccountingFile.single_eq_ok_iff.mp hused⟩⟩, hbefore⟩

/-- Numbers that the files tell are the numbers. -/
theorem numbers_of_filesTell {used limit cached active : UInt64}
    (h : r.FilesTell files used limit cached active) :
    r.numbers files = .ok (cached, active, limit, used) := by
  obtain ⟨content, hread, hcached, hactive⟩ := h.stat
  obtain ⟨limitText, hlimitRead, hlimit⟩ := h.limit
  obtain ⟨usageText, husageRead, hused⟩ := h.usage
  have hstat : AccountingFile.valueOf files.stat .ok r.stat = .ok content :=
    AccountingFile.valueOf_eq_ok_iff.mpr ⟨content, hread, rfl⟩
  have hcached : AccountingFile.required files.stat content files.cacheKey = .ok cached :=
    AccountingFile.required_eq_ok_iff.mpr hcached
  have hactive : AccountingFile.required files.stat content files.activeFileKey = .ok active :=
    AccountingFile.required_eq_ok_iff.mpr hactive
  have hlimit : AccountingFile.valueOf files.limit files.limitBytes r.limit = .ok limit :=
    AccountingFile.valueOf_eq_ok_iff.mpr
      ⟨limitText, hlimitRead, MemoryFiles.limitBytes_eq_ok_iff.mpr hlimit⟩
  have hused : AccountingFile.valueOf files.usage files.usedBytes r.usage = .ok used :=
    AccountingFile.valueOf_eq_ok_iff.mpr
      ⟨usageText, husageRead, AccountingFile.single_eq_ok_iff.mpr hused⟩
  simp only [numbers, bind, Except.bind, hstat, hcached, hactive, hlimit, hused]
  rfl

end MemoryReadings

end Periscope
