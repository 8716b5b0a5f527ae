import Periscope.Proofs.Crawl.Attempts
import Periscope.Proofs.Sampling.Listening

/-!
# The features of a crawl stand apart

A feature that fails is told in the report of its target and in no other place. A container's
memory figures, and its own figures of the processor, follow from what its files, the clock
and the host tell the attempt at them, and from its own sample of before. So they are the same
in two crawls that differ in everything else.
-/

namespace Periscope

variable {σ τ : Type}

/-- The members of a core that hold its own figures. -/
def Json.ownMembers : List String := ["idle", "system", "user", "utilization"]

/-- The use of cores as JSON, without the host's figures. -/
def Json.ownFigures : Json → Json
  | .array cores => .array (cores.map fun
    | .object members => .object (members.filter (·.1 ∈ ownMembers))
    | other => other)
  | other => other

/-- An outcome without the host's figures. -/
def FeatureOutcome.ownFigures : FeatureOutcome → FeatureOutcome
  | .ok value => .ok value.ownFigures
  | .failed error => .failed error

/-- The own figures of a core as JSON. -/
private def OwnFigures.toJson (own : OwnFigures Float) : Json :=
  .object
    [("idle", .ofFloat own.idle), ("system", .ofFloat own.system), ("user", .ofFloat own.user),
     ("utilization", .ofFloat own.utilization)]

/-- What is left of the use of cores follows from their own figures. -/
private theorem ownFigures_cores (cores : List (CoreUsage Float)) :
    Json.ownFigures (.array (cores.map CoreUsage.toJson)) =
      .array ((cores.map CoreUsage.own).map OwnFigures.toJson) := by
  rw [Json.ownFigures, List.map_map, List.map_map]
  congr 1

namespace CollectAttempt

/-- What a container's files, the clock and, for memory, the host tell an attempt at figures
of a container. -/
def told (crawler : Crawler) (world : CrawlWorld σ) (a : CollectAttempt σ) : List Answer :=
  let id := a.target.containerId
  let files := crawler.files id
  match a.feature with
  | .cpu =>
    Call.told (Sampler.cpu (world.source.listened (Sampler.heedsCpu files.cpu))
      crawler.config.coldStartInterval id files.cpu) a.before
  | .memory =>
    Call.told (Sampler.memory (world.source.listened (Sampler.heedsMemory files.memory))
      id files.memory) a.before
  | .os => []
  | .process => []

/-- The sample of the container that an attempt finds. -/
def sample? (a : CollectAttempt σ) : Option Sample :=
  Pairs.find? a.target.containerId a.before.samples

end CollectAttempt

namespace Crawler

variable (crawler : Crawler) (world : CrawlWorld σ) (target : Target) (s : Session σ)

/-- What a call comes to whose value is still worked on. -/
private theorem fst_bind_pure {α β : Type} (call : Call σ α) (f : α → β) :
    ((do return f (← call) : Call σ β) s).1 = (call s).1.map f := by
  have hbind : (do return f (← call) : Call σ β) s =
      (ExceptT.bindCont (fun x => pure (f x)) (call s).1 : Action σ (Except Halt β)) (call s).2 :=
    rfl
  rw [hbind]
  cases (call s).1 with
  | ok x => rfl
  | error halt => rfl

/-- Collecting the use of the cores. -/
private theorem collect_cpu : (crawler.collect world target .cpu s).1 =
    (Sampler.cpu world.source crawler.config.coldStartInterval target.containerId
      (crawler.files target.containerId).cpu s).1.map
        (Except.map fun cores => .array (cores.map CoreUsage.toJson)) :=
  fst_bind_pure s _ _

/-- Collecting the memory figures. -/
private theorem collect_memory : (crawler.collect world target .memory s).1 =
    (Sampler.memory world.source target.containerId
      (crawler.files target.containerId).memory s).1.map (Except.map MemoryUsage.toJson) :=
  fst_bind_pure s _ _

end Crawler

namespace CollectAttempt

variable {crawler : Crawler} {world : CrawlWorld σ} {world' : CrawlWorld τ}
  {a : CollectAttempt σ} {b : CollectAttempt τ}

/-- Two attempts at the memory figures of a container that are told the same have one outcome. -/
theorem memory_outcome_eq (ha : a.result = (crawler.collect world a.target a.feature a.before).1)
    (hb : b.result = (crawler.collect world' b.target b.feature b.before).1)
    (hid : a.target.containerId = b.target.containerId) (hfeature : a.feature = .memory)
    (hfeature' : b.feature = .memory) (htold : a.told crawler world = b.told crawler world') :
    a.outcome? = b.outcome? := by
  rw [hfeature, Crawler.collect_memory, hid] at ha
  rw [hfeature', Crawler.collect_memory] at hb
  simp only [told, hfeature, hfeature', hid] at htold
  have hresult : a.result = b.result := by
    rw [ha, hb, Sampler.memory_eq htold]
  rw [outcome?, outcome?, hresult]

/-- Two attempts at the processor use of a container that find one sample of it and are told the
same have, unless they halt, the same outcome but for the host's figures. -/
theorem cpu_outcome_eq (ha : a.result = (crawler.collect world a.target a.feature a.before).1)
    (hb : b.result = (crawler.collect world' b.target b.feature b.before).1)
    (hends : a.Ends) (hends' : b.Ends)
    (hid : a.target.containerId = b.target.containerId) (hfeature : a.feature = .cpu)
    (hfeature' : b.feature = .cpu) (hsample : a.sample? = b.sample?)
    (htold : a.told crawler world = b.told crawler world') :
    a.outcome?.map FeatureOutcome.ownFigures = b.outcome?.map FeatureOutcome.ownFigures := by
  rw [hfeature, Crawler.collect_cpu, hid] at ha
  rw [hfeature', Crawler.collect_cpu] at hb
  simp only [told, hfeature, hfeature', hid] at htold
  rw [sample?, sample?, hid] at hsample
  obtain ⟨result, hresult⟩ := hends
  obtain ⟨result', hresult'⟩ := hends'
  rw [outcome?, outcome?, hresult, hresult']
  rw [hresult] at ha
  rw [hresult'] at hb
  cases hcpu : (Sampler.cpu world.source crawler.config.coldStartInterval b.target.containerId
      (crawler.files b.target.containerId).cpu a.before).1 with
  | error halt => simp [hcpu, Except.map] at ha
  | ok cores =>
    cases hcpu' : (Sampler.cpu world'.source crawler.config.coldStartInterval b.target.containerId
        (crawler.files b.target.containerId).cpu b.before).1 with
    | error halt => simp [hcpu', Except.map] at hb
    | ok cores' =>
      have hown := Sampler.cpu_own_eq hsample htold hcpu hcpu'
      rw [hcpu] at ha
      rw [hcpu'] at hb
      obtain rfl := Except.ok.inj ha
      obtain rfl := Except.ok.inj hb
      cases cores with
      | error cause =>
        cases cores' with
        | error cause' =>
          obtain rfl := Except.error.inj hown
          rfl
        | ok cores' => cases hown
      | ok cores =>
        cases cores' with
        | error cause' => cases hown
        | ok cores' =>
          have hfigures : Json.ownFigures (.array (cores.map CoreUsage.toJson)) =
              Json.ownFigures (.array (cores'.map CoreUsage.toJson)) := by
            rw [ownFigures_cores, ownFigures_cores, Except.ok.inj hown]
          exact congrArg (fun value => some (FeatureOutcome.ok value)) hfigures

end CollectAttempt

namespace Crawler

/-- **One feature's failure is not another's.** If no attempt of a crawl halts, the crawl returns
a report for each target in order. Every configured feature is attempted at each target, whatever
came before, and the target's report lists just the configured features with what the attempts
came to. The memory outcome of an attempt, and its processor outcome but for the host's figures,
are those of any attempt at the same container, in any crawl, that is told the same by the
container's files, the clock and, for memory, the host, and for the processor finds the same
sample of it. -/
theorem crawl_features_apart (crawler : Crawler) (world : CrawlWorld σ) (targets : List Target)
    (s : Session σ)
    (hends : ∀ visit ∈ crawler.visits world targets s, ∀ a ∈ visit.attempts, a.Ends) :
    (∃ reports, (crawler.crawl world targets s).1 = .ok reports ∧
      List.Forall₂ (Visit.Reported crawler.config.features) (crawler.visits world targets s)
        reports) ∧
    (crawler.visits world targets s).map Visit.target = targets ∧
    ∀ visit ∈ crawler.visits world targets s,
      visit.attempts.map CollectAttempt.feature = crawler.config.features ∧
      ∀ a ∈ visit.attempts, a.target = visit.target ∧
        a.result = (crawler.collect world a.target a.feature a.before).1 ∧
        ∀ {τ : Type} (world' : CrawlWorld τ) (targets' : List Target) (s' : Session τ),
          ∀ visit' ∈ crawler.visits world' targets' s', ∀ b ∈ visit'.attempts, b.Ends →
            a.target.containerId = b.target.containerId → a.feature = b.feature →
            a.told crawler world = b.told crawler world' →
              (a.feature = .memory → a.outcome? = b.outcome?) ∧
              (a.feature = .cpu → a.sample? = b.sample? →
                a.outcome?.map FeatureOutcome.ownFigures =
                  b.outcome?.map FeatureOutcome.ownFigures) := by
  obtain ⟨htargets, hvisits⟩ := @visits_complete _ world crawler targets s
  refine ⟨crawl_of_ends hends, htargets, fun visit hvisit => ?_⟩
  obtain ⟨hfeatures, hattempts⟩ := hvisits visit hvisit
  refine ⟨hfeatures, fun a ha => ?_⟩
  obtain ⟨htarget, hcollect⟩ := hattempts a ha
  refine ⟨htarget, hcollect, ?_⟩
  intro τ world' targets' s' visit' hvisit' b hb hbends hid hfeature htold
  have hcollect' := ((@visits_complete _ world' crawler targets' s').2 visit' hvisit').2 b hb |>.2
  constructor
  · intro hmemory
    exact CollectAttempt.memory_outcome_eq hcollect hcollect' hid hmemory
      (hfeature.symm.trans hmemory) htold
  · intro hcpu hsample
    exact CollectAttempt.cpu_outcome_eq hcollect hcollect' (hends visit hvisit a ha) hbends hid
      hcpu (hfeature.symm.trans hcpu) hsample htold

/-- The accounting files of the one container that a small machine has. -/
private def webFiles : List (String × String) :=
  [("cg/cpuacct/docker/web/cpuacct.usage_percpu", "40 50"),
   ("cg/cpuacct/docker/web/cpuacct.stat", "user 1\nsystem 2\n"),
   ("cg/memory/docker/web/memory.stat", "total_cache 3\ntotal_active_file 4\n"),
   ("cg/memory/docker/web/memory.limit_in_bytes", "90"),
   ("cg/memory/docker/web/memory.usage_in_bytes", "30")]

/-- A machine on which nothing moves. -/
private def stillWorld : CrawlWorld Unit where
  namespaces :=
    { openNamespace := fun _ _ _ => (none, ())
      enterNamespace := fun _ _ => (none, ())
      closeNamespace := fun _ _ => (none, ())
      currentDirectory := fun _ => (.ok "/", ())
      changeDirectory := fun _ _ => (none, ()) }
  workers :=
    { tryChild := ChildEnding.always
      startReader := fun _ => (none, ())
      startWorker := fun _ => (none, ())
      uptime := fun _ => (⟨0⟩, ()) }
  source :=
    { readText := fun path _ =>
        (match webFiles.lookup path with
          | some text => .ok text
          | none => .error (.described .invalidData "missing"), ())
      now := fun _ => (.ok ⟨7⟩, ())
      sleep := fun _ _ => (.ok (), ())
      hostShares := fun _ => (.ok (.ok []), ())
      hostFree := fun _ => (.ok (.ok 100), ()) }
  identify := fun _ => .panicked
  listProcesses := fun _ => .panicked

private def figuresCrawler : Crawler where
  config := { cgroupRoot := "cg", features := [.memory, .cpu] }
  executor := {}

private theorem still_ends (targets : List Target) (s : Session Unit)
    (h : ((figuresCrawler.visits stillWorld targets s).all fun visit =>
      visit.attempts.all fun a => a.outcome?.isSome) = true) :
    ∀ visit ∈ figuresCrawler.visits stillWorld targets s, ∀ a ∈ visit.attempts, a.Ends := by
  intro visit hvisit a ha
  have hsome := List.all_eq_true.mp (List.all_eq_true.mp h visit hvisit) a ha
  rw [CollectAttempt.outcome?] at hsome
  split at hsome
  · next value hresult => exact ⟨_, hresult⟩
  · next cause hresult => exact ⟨_, hresult⟩
  · cases hsome

/-- A container's figures are the same beside one whose files are missing. -/
theorem crawl_features_apart_beside_missing :
    ∃ gone beside alone,
      figuresCrawler.visits stillWorld [⟨"gone", 1⟩, ⟨"web", 2⟩] { world := () } =
        [gone, beside] ∧
      figuresCrawler.visits stillWorld [⟨"web", 2⟩] { world := () } = [alone] ∧
      gone.attempts.map (·.outcome?.map FeatureOutcome.isOk) = [some false, some false] ∧
      beside.attempts.map (·.outcome?.map FeatureOutcome.isOk) = [some true, some true] ∧
      beside.attempts.map (·.outcome?.map FeatureOutcome.ownFigures) =
        alone.attempts.map (·.outcome?.map FeatureOutcome.ownFigures) := by
  have hboth := still_ends [⟨"gone", 1⟩, ⟨"web", 2⟩] { world := () } (by decide +kernel)
  have hone := still_ends [⟨"web", 2⟩] { world := () } (by decide +kernel)
  obtain ⟨_, _, hapart⟩ := crawl_features_apart figuresCrawler stillWorld
    [⟨"gone", 1⟩, ⟨"web", 2⟩] { world := () } hboth
  obtain ⟨_, hbeside⟩ := hapart ⟨⟨"web", 2⟩, _⟩ (.tail _ (.head _))
  obtain ⟨_, _, hmemory⟩ := hbeside _ (.head _)
  obtain ⟨_, _, hcpu⟩ := hbeside _ (.tail _ (.head _))
  have halone := hone ⟨⟨"web", 2⟩, _⟩ (.head _)
  obtain ⟨hmemory, _⟩ := hmemory stillWorld [⟨"web", 2⟩] { world := () } _ (.head _) _ (.head _)
    (halone _ (.head _)) rfl rfl rfl
  obtain ⟨_, hcpu⟩ := hcpu stillWorld [⟨"web", 2⟩] { world := () } _ (.head _) _
    (.tail _ (.head _)) (halone _ (.tail _ (.head _))) rfl rfl rfl
  replace hmemory := congrArg (Option.map FeatureOutcome.ownFigures) (hmemory rfl)
  replace hcpu := hcpu rfl rfl
  refine ⟨_, _, _, rfl, rfl, by decide +kernel, by decide +kernel, ?_⟩
  exact congrArg₂ (fun first second => [first, second]) hmemory hcpu

end Crawler

end Periscope
