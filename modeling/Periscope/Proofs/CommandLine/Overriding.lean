import Periscope.CommandLine.Program
import Periscope.Proofs.Config.Loading

/-!
# Flags in place of a file's settings

What a command goes by is told field by field: a flag counts before the file, and the file before
the default. The bounds are checked twice, in the file by itself and again in what the flags make
of it. A flag may therefore spoil a file that is valid, but it never mends one that is not.
-/

namespace Periscope

open Config (Setting override)

/-- What is in effect for a field: a flag, or else what the file says, or else the default. -/
inductive InEffect (flags given : List Setting) : Setting → Prop where
  /-- A flag is given for the field. -/
  | flag {s : Setting} (h : s ∈ flags) : InEffect flags given s
  /-- The file has the field and no flag replaces it. -/
  | file {s : Setting} (h : s ∈ given) (hflags : s.name ∉ flags.map Setting.name) :
      InEffect flags given s
  /-- Neither a flag nor the file has the field. -/
  | default {s : Setting} (h : s ∈ ({} : Config).settings)
      (hflags : s.name ∉ flags.map Setting.name) (hfile : s.name ∉ given.map Setting.name) :
      InEffect flags given s

/-- Two configurations have the same settings in all fields that flags leave alone. -/
def SameBeside (flags : List Setting) (config other : Config) : Prop :=
  ∀ s ∈ config.settings, s.name ∉ flags.map Setting.name → s ∈ other.settings

/-- What a run finds where its configuration is to be read: settings of different names, which a
file that can be decoded gives, or none if no file is named. -/
inductive Found (m : Machine) : Option String → List Setting → Prop where
  /-- No file is named. -/
  | nothing : Found m none []
  /-- The file comes to the default configuration with these settings. -/
  | file {path content : String} {given : List Setting} (hread : m.readText path = .ok content)
      (hdecoded : Json.decodeText Config.decoder content = .ok (override given))
      (hdistinct : (given.map Setting.name).Nodup) : Found m (some path) given

/-- Flags behind the settings of a file make what is in effect. -/
theorem mem_settings_override {flags given : List Setting}
    (hflags : (flags.map Setting.name).Nodup) (hgiven : (given.map Setting.name).Nodup)
    {s : Setting} : s ∈ (override (given ++ flags)).settings ↔ InEffect flags given s := by
  rw [override, List.foldl_append, Config.mem_settings_foldl hflags,
    Config.mem_settings_foldl hgiven]
  constructor
  · rintro (h | ⟨h | ⟨h, hfile⟩, hflag⟩)
    · exact .flag h
    · exact .file h hflag
    · exact .default h hflag hfile
  · rintro (h | ⟨h, hflag⟩ | ⟨h, hflag, hfile⟩)
    · exact .inl h
    · exact .inr ⟨.inl h, hflag⟩
    · exact .inr ⟨.inr ⟨h, hfile⟩, hflag⟩

/-- What flags replace does not matter. -/
theorem SameBeside.override_eq {flags given others : List Setting}
    (hflags : (flags.map Setting.name).Nodup)
    (h : SameBeside flags (override given) (override others)) :
    override (given ++ flags) = override (others ++ flags) := by
  refine Config.eq_of_settings fun s hs => ?_
  rw [override, List.foldl_append, Config.mem_settings_foldl hflags] at hs ⊢
  exact hs.imp_right fun hkept => ⟨h s hkept.1 hkept.2, hkept.2⟩

/-- What is found has different names. -/
theorem Found.distinct {m : Machine} {path : Option String} {given : List Setting}
    (h : Found m path given) : (given.map Setting.name).Nodup := by
  cases h with
  | nothing => exact List.nodup_nil
  | file _ _ hdistinct => exact hdistinct

/-- Every file that can be decoded is found, with all settings of what it comes to. -/
theorem Found.of_decoded {m : Machine} {path content : String} {config : Config}
    (hread : m.readText path = .ok content)
    (hdecoded : Json.decodeText Config.decoder content = .ok config) :
    Found m (some path) config.settings :=
  .file hread (config.override_settings.symm ▸ hdecoded) (by simp [Config.settings, Setting.name])

/-- A file that holds a text is read as this text. -/
theorem Machine.readText_of_find {m : Machine} {path text : String} {place : Place}
    (hdirectory : m.directoryGone = false)
    (hfind : m.files.find m.directory path = .ok (place, .file text.toUTF8)) :
    m.readText path = .ok text := by
  have htext : String.fromUTF8? text.toUTF8 = some text := dif_pos text.isValidUTF8
  simp only [Machine.readText, hdirectory, Bool.false_eq_true, false_and, if_false,
    FileTree.readText, hfind, Bind.bind, Except.bind, htext]
  rfl

/-- A file to which settings were printed is found. -/
theorem Found.of_printed {m : Machine} {path : String} {given : List Setting}
    (hread : m.readText path =
      .ok (Json.object (given.map fun s => (s.name, s.toJson))).compact)
    (hdistinct : (given.map Setting.name).Nodup) : Found m (some path) given :=
  .file hread (Config.decodeText_document (Config.document_printed given) hdistinct) hdistinct

namespace Command

/-- The settings that the flags of a command give. -/
def flags : Command → List Setting
  | .crawl arguments =>
    (arguments.timeout.map .isolationTimeoutSecs).toList ++
      ((arguments.namespaces.map .namespaces).toList ++
        (arguments.features.map .features).toList)
  | .sample arguments =>
    (arguments.cgroupRoot.map .cgroupRoot).toList ++
      (arguments.layout.map .cgroupLayout).toList

/-- Whether a command ends by itself, which a crawl that is repeated does not. -/
def Once : Command → Prop
  | .crawl arguments => arguments.every = none
  | .sample _ => True

/-- What becomes of a command that starts to crawl or to sample as a configuration says. -/
def started (config : Config) (id startedAt : String) (m : Machine) : Command → RunResult
  | .crawl arguments =>
    let crawler : Crawler := { config, executor := { timeout := config.isolationTimeout } }
    match (crawler.crawl Machine.crawlWorld arguments.targets).run
        { world := Program.configure config m } with
    | (.error halt, _) => Program.stopped "" halt
    | (.ok reports, _) =>
      ⟨0, Program.roundText arguments.pretty id startedAt reports ++ "\n", none⟩
  | .sample arguments =>
    Program.sampleLines config arguments.containers (SampleTable.header ++ "\n")
      { world := Program.configure config m }

/-- The configuration with the flags of a command in place of its settings. -/
def overrides (command : Command) (config : Config) : Config :=
  command.flags.foldl (fun config s => s.apply config) config

/-- What becomes of a command with a configuration that was loaded. -/
def runWith (config : Config) (id startedAt : String) (m : Machine) : Command → RunResult
  | .crawl arguments => Program.runCrawl arguments config id startedAt m
  | .sample arguments => Program.runSample arguments config m

/-- No field has two flags. -/
theorem flags_distinct (command : Command) : (command.flags.map Setting.name).Nodup := by
  cases command with
  | crawl arguments =>
    obtain ⟨_, _, timeout, namespaces, features, _⟩ := arguments
    cases timeout <;> cases namespaces <;> cases features <;> simp [flags, Setting.name]
  | sample arguments =>
    obtain ⟨_, root, layout⟩ := arguments
    cases root <;> cases layout <;> simp [flags, Setting.name]

/-- The options of `crawl` are applied as the settings that they give. -/
theorem overrides_crawl (arguments : CrawlArguments) (config : Config) :
    (crawl arguments).overrides config = arguments.apply config := by
  obtain ⟨_, _, timeout, namespaces, features, _⟩ := arguments
  cases timeout <;> cases namespaces <;> cases features <;> rfl

/-- The options of `sample` are applied as the settings that they give. -/
theorem overrides_sample (arguments : SampleArguments) (config : Config) :
    (sample arguments).overrides config = arguments.apply config := by
  obtain ⟨_, root, layout⟩ := arguments
  cases root <;> cases layout <;> rfl

end Command

namespace Program

theorem stopped_status (output : String) (halt : Halt) : (stopped output halt).status ≠ 1 := by
  cases halt <;> simp [stopped]

theorem sampleLines_status (config : Config) (ids : List String) (output : String)
    (s : Session Machine) : (sampleLines config ids output s).status ≠ 1 := by
  induction ids generalizing output s with
  | nil => simp [sampleLines]
  | cons id rest ih =>
    rw [sampleLines]
    split
    · exact ih _ _
    · exact stopped_status _ _

/-- Only a run that does not start ends with an error. -/
theorem started_status (command : Command) (config : Config) (id startedAt : String)
    (m : Machine) : (command.started config id startedAt m).status ≠ 1 := by
  cases command with
  | crawl arguments =>
    rw [Command.started]
    split
    · exact stopped_status _ _
    · simp
  | sample arguments => exact sampleLines_status _ _ _ _

/-- A run starts exactly under a condition. Otherwise it ends with an error before anything is
printed. -/
inductive StartsWhen (ready : Prop) (started : RunResult) : RunResult → Prop where
  /-- The run is that of the command, which ends with no error. -/
  | starts (h : ready) (hstatus : started.status ≠ 1) : StartsWhen ready started started
  /-- The run is refused. -/
  | refused (h : ¬ready) (message : String) : StartsWhen ready started (failed "" message)

/-- What is found is the configuration of a run if it is valid by itself. -/
theorem loadConfig_of_valid {m : Machine} {path : Option String} {given : List Setting}
    (h : Found m path given) (hvalid : (override given).Valid) :
    loadConfig path m.readText = .ok (override given) := by
  cases h with
  | nothing => rfl
  | @file path content given hread hdecoded _ =>
    have hload := Config.load_decoded hdecoded path
    rw [if_pos hvalid] at hload
    rw [loadConfig, hread, hload]
    rfl

/-- The wording of the refusal of a file. -/
def unloaded (file : String) (cause : Misconfiguration) : String :=
  "failed to load " ++ file ++ ": " ++ (CrawlError.config cause).message

/-- What is found is not loaded if it is invalid by itself. Without a file this cannot be. -/
theorem loadConfig_of_invalid {m : Machine} {path : Option String} {given : List Setting}
    {cause : Misconfiguration} (h : Found m path given)
    (hcause : (override given).validate = .error cause) :
    ∃ file, path = some file ∧ loadConfig path m.readText = .error (unloaded file cause) := by
  cases h with
  | nothing => cases hcause
  | @file path content given hread hdecoded _ =>
    have hload := Config.load_decoded hdecoded path
    rw [Config.validate_eq] at hcause
    by_cases hvalid : (override given).Valid
    · rw [if_pos hvalid] at hcause
      cases hcause
    · rw [if_neg hvalid] at hcause hload
      rw [Except.error.inj hcause] at hload
      exact ⟨path, rfl, by rw [loadConfig, hread, hload]; rfl⟩

/-- A command starts with what its flags make of the configuration if this is valid. -/
theorem runWith_of_valid {command : Command} (honce : command.Once) {config : Config}
    (hvalid : (command.overrides config).Valid) (id startedAt : String) (m : Machine) :
    command.runWith config id startedAt m =
      command.started (command.overrides config) id startedAt m := by
  have hvalidate := (command.overrides config).validate_eq
  rw [if_pos hvalid] at hvalidate
  cases command with
  | crawl arguments =>
    have hevery : arguments.every = none := honce
    rw [Command.overrides_crawl] at hvalidate ⊢
    simp only [Command.runWith, runCrawl, prepareCrawl, Crawler.ofConfig, hvalidate, hevery]
    rfl
  | sample arguments =>
    rw [Command.overrides_sample] at hvalidate ⊢
    simp only [Command.runWith, runSample, prepareSample, hvalidate]
    rfl

/-- A command is refused if what its flags make of the configuration is invalid. -/
theorem runWith_of_invalid {command : Command} {config : Config}
    (hinvalid : ¬(command.overrides config).Valid) (id startedAt : String) (m : Machine) :
    ∃ message, command.runWith config id startedAt m = failed "" message := by
  have hvalidate := (command.overrides config).validate_eq
  rw [if_neg hinvalid] at hvalidate
  cases command with
  | crawl arguments =>
    rw [Command.overrides_crawl] at hvalidate
    exact ⟨_, by
      simp only [Command.runWith, runCrawl, prepareCrawl, Crawler.ofConfig, hvalidate]; rfl⟩
  | sample arguments =>
    rw [Command.overrides_sample] at hvalidate
    exact ⟨_, by simp only [Command.runWith, runSample, prepareSample, hvalidate]; rfl⟩

/-- A command goes by nothing but what its flags make of the configuration. -/
theorem runWith_congr {command : Command} {config other : Config}
    (h : command.overrides config = command.overrides other) (id startedAt : String)
    (m : Machine) :
    command.runWith config id startedAt m = command.runWith other id startedAt m := by
  cases command with
  | crawl arguments =>
    rw [Command.overrides_crawl, Command.overrides_crawl] at h
    simp only [Command.runWith, runCrawl, prepareCrawl, h]
  | sample arguments =>
    rw [Command.overrides_sample, Command.overrides_sample] at h
    simp only [Command.runWith, runSample, prepareSample, h]

variable {environment : Option String} {words : List String} {path : Option String}
  {command : Command} {m : Machine} {given : List Setting}

/-- With a file that is valid by itself the command is run with what was found. -/
theorem run_of_valid (hparse : CommandLine.parse environment words = .ok ⟨path, command⟩)
    (hfound : Found m path given) (hvalid : (override given).Valid) (id startedAt : String) :
    run environment words id startedAt m =
      command.runWith (override given) id startedAt m := by
  simp only [run, hparse, loadConfig_of_valid hfound hvalid]
  cases command <;> rfl

/-- A file that is invalid by itself is refused, whatever the command. -/
theorem run_of_invalid {cause : Misconfiguration}
    (hparse : CommandLine.parse environment words = .ok ⟨path, command⟩)
    (hfound : Found m path given) (hcause : (override given).validate = .error cause)
    (id startedAt : String) :
    ∃ file, path = some file ∧
      run environment words id startedAt m = failed "" (unloaded file cause) := by
  obtain ⟨file, hfile, hload⟩ := loadConfig_of_invalid hfound hcause
  exact ⟨file, hfile, by simp only [run, hparse, hload]⟩

/-- A run starts if the file is valid by itself and so is what the flags make of it. -/
theorem run_startsWhen (hparse : CommandLine.parse environment words = .ok ⟨path, command⟩)
    (honce : command.Once) (hfound : Found m path given) (id startedAt : String) :
    StartsWhen ((override given).Valid ∧ (override (given ++ command.flags)).Valid)
      (command.started (override (given ++ command.flags)) id startedAt m)
      (run environment words id startedAt m) := by
  have heffective : override (given ++ command.flags) = command.overrides (override given) :=
    List.foldl_append
  rw [heffective]
  by_cases hvalid : (override given).Valid
  · rw [run_of_valid hparse hfound hvalid]
    by_cases hflags : (command.overrides (override given)).Valid
    · rw [runWith_of_valid honce hflags]
      exact .starts ⟨hvalid, hflags⟩ (started_status _ _ _ _ _)
    · obtain ⟨message, hrun⟩ := runWith_of_invalid hflags id startedAt m
      rw [hrun]
      exact .refused (fun hboth => hflags hboth.2) message
  · have hcause := (override given).validate_eq
    rw [if_neg hvalid] at hcause
    obtain ⟨file, -, hrun⟩ := run_of_invalid hparse hfound hcause id startedAt
    rw [hrun]
    exact .refused (fun hboth => hvalid hboth.1) _

/-- **What a flag says counts, and what a file says must be valid by itself.** A command goes by
the configuration that has for each field what a flag says, or else the file, or else the default.
It starts to crawl or to sample exactly if both this configuration and the file by itself are valid,
and otherwise ends with an error before anything is printed. A file that is invalid by itself is
refused by its name, whatever the flags are. Of two files that are valid by themselves and differ in
nothing but what the flags replace, it does not matter which is named. -/
theorem flags_replace_settings
    (hparse : CommandLine.parse environment words = .ok ⟨path, command⟩)
    (honce : command.Once) (hfound : Found m path given) (id startedAt : String) :
    ∃ effective : Config,
      (∀ s, s ∈ effective.settings ↔ InEffect command.flags given s) ∧
      StartsWhen ((override given).Valid ∧ effective.Valid)
        (command.started effective id startedAt m) (run environment words id startedAt m) ∧
      (∀ cause, (override given).validate = .error cause →
        ∃ file, path = some file ∧
          run environment words id startedAt m = failed "" (unloaded file cause)) ∧
      ∀ environment' words' path' others,
        CommandLine.parse environment' words' = .ok ⟨path', command⟩ → Found m path' others →
        (override given).Valid → (override others).Valid →
        SameBeside command.flags (override given) (override others) →
        run environment' words' id startedAt m = run environment words id startedAt m := by
  have hflags := command.flags_distinct
  refine ⟨override (given ++ command.flags),
    fun s => mem_settings_override hflags hfound.distinct,
    run_startsWhen hparse honce hfound id startedAt,
    fun cause hcause => run_of_invalid hparse hfound hcause id startedAt,
    fun environment' words' path' others hparse' hfound' hvalid hvalid' hsame => ?_⟩
  have heffective : command.overrides (override others) = command.overrides (override given) := by
    have hoverride := hsame.override_eq hflags
    rw [override, override, List.foldl_append, List.foldl_append] at hoverride
    exact hoverride.symm
  rw [run_of_valid hparse' hfound' hvalid', run_of_valid hparse hfound hvalid]
  exact runWith_congr heffective id startedAt m

/-- A file that gives nothing but the bound on isolated calls. -/
private def boundText (seconds : UInt64) : String :=
  (Json.object ([Setting.isolationTimeoutSecs seconds].map fun s => (s.name, s.toJson))).compact

/-- A machine with two such files. -/
private def boundMachine (first second : UInt64) : Machine where
  files := ⟨[(["a.json"], .file (boundText first).toUTF8),
    (["b.json"], .file (boundText second).toUTF8)]⟩

/-- The words of a crawl that names a file and gives a bound of its own. -/
private def boundWords (file : String) : List String :=
  ["--config", file, "crawl", "--target", "a:3", "--timeout", "5"]

/-- The command in these words. -/
private def boundCommand : Command := .crawl { targets := [⟨"a", 3⟩], timeout := some 5 }

private theorem parse_boundWords :
    CommandLine.parse none (boundWords "a.json") = .ok ⟨some "a.json", boundCommand⟩ ∧
      CommandLine.parse none (boundWords "b.json") = .ok ⟨some "b.json", boundCommand⟩ := by
  constructor <;> rfl

private theorem found_boundMachine (first second : UInt64) :
    Found (boundMachine first second) (some "a.json") [.isolationTimeoutSecs first] ∧
      Found (boundMachine first second) (some "b.json") [.isolationTimeoutSecs second] :=
  ⟨.of_printed (Machine.readText_of_find rfl rfl) (by simp),
    .of_printed (Machine.readText_of_find rfl rfl) (by simp)⟩

private theorem sameBeside_bound (first second : UInt64) :
    SameBeside boundCommand.flags (override [.isolationTimeoutSecs first])
      (override [.isolationTimeoutSecs second]) := by
  simp [SameBeside, boundCommand, Command.flags, Config.settings, Setting.name, override,
    Setting.apply]

/-- The bound of the command line counts, whichever file is named. -/
theorem flag_replaces_bound_of_file :
    run none (boundWords "b.json") "7" "12:00" (boundMachine 7 9) =
      run none (boundWords "a.json") "7" "12:00" (boundMachine 7 9) := by
  obtain ⟨_, -, -, -, hsame⟩ := flags_replace_settings parse_boundWords.1 rfl
    (found_boundMachine 7 9).1 "7" "12:00"
  exact hsame none _ _ _ parse_boundWords.2 (found_boundMachine 7 9).2 (by decide) (by decide)
    (sameBeside_bound 7 9)

/-- A bound that is zero is refused in a file, although a flag replaces it and the command starts
with another file that differs in nothing else. -/
theorem zero_bound_refused_behind_flag :
    CommandLine.parse none (boundWords "a.json") = .ok ⟨some "a.json", boundCommand⟩ ∧
      CommandLine.parse none (boundWords "b.json") = .ok ⟨some "b.json", boundCommand⟩ ∧
      Found (boundMachine 0 9) (some "a.json") [.isolationTimeoutSecs 0] ∧
      Found (boundMachine 0 9) (some "b.json") [.isolationTimeoutSecs 9] ∧
      SameBeside boundCommand.flags (override [.isolationTimeoutSecs 0])
        (override [.isolationTimeoutSecs 9]) ∧
      (override ([.isolationTimeoutSecs 0] ++ boundCommand.flags)).Valid ∧
      run none (boundWords "a.json") "7" "12:00" (boundMachine 0 9) =
        ⟨1, "", some ("Error: failed to load a.json: invalid configuration: " ++
          "isolation_timeout_secs must be positive")⟩ ∧
      (run none (boundWords "b.json") "7" "12:00" (boundMachine 0 9)).status ≠ 1 := by
  have hfound := found_boundMachine 0 9
  refine ⟨parse_boundWords.1, parse_boundWords.2, hfound.1, hfound.2, sameBeside_bound 0 9,
    by decide, ?_, ?_⟩
  · obtain ⟨file, hfile, hrun⟩ :=
      run_of_invalid parse_boundWords.1 hfound.1 rfl "7" "12:00"
    obtain rfl := Option.some.inj hfile
    exact hrun
  · have honce : boundCommand.Once := rfl
    rw [run_of_valid parse_boundWords.2 hfound.2 (by decide),
      runWith_of_valid honce (by decide)]
    exact started_status _ _ _ _ _

end Program

end Periscope
