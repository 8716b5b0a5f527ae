import Periscope.Cgroup.Sampler
import Periscope.Config
import Periscope.Isolation.Executor
import Periscope.Probe.OsRelease
import Periscope.Probe.ProcessTable
import Periscope.Report
import Periscope.Target

/-!
# Crawling

A crawl makes one report for each target, in the order of the targets. Each configured
feature is tried for each target, and one that fails is told in the report and stops
nothing else.
-/

namespace Periscope

/-- The world of a crawl: how the system answers, and what becomes of the probes that run
in the target's namespaces. -/
structure CrawlWorld (σ : Type) where
  /-- How the system answers requests about namespaces. -/
  namespaces : NamespaceSystem σ
  /-- How the system answers requests about workers. -/
  workers : WorkerSystem σ
  /-- Where samples are taken from. -/
  source : SampleSource σ
  /-- What becomes of the probe for the operating system in a session. -/
  identify : Session σ → ProbeEnding OsInfo
  /-- What becomes of the probe for the process table in a session. -/
  listProcesses : Session σ → ProbeEnding (Items ProcessRecord)

/-- A crawl that is ready to start. -/
structure Crawler where
  /-- What to collect, and where from. -/
  config : Config
  /-- The settings of isolated calls. -/
  executor : Executor

variable {σ : Type} (world : CrawlWorld σ)

namespace Crawler

/-- A crawler for the host itself. The configuration must be valid. -/
def ofConfig (config : Config) : Except CrawlError Crawler := do
  config.validate.mapError CrawlError.config
  return { config, executor := { timeout := config.isolationTimeout } }

/-- The accounting files of a container. -/
def files (crawler : Crawler) (id : String) : ContainerFiles :=
  .resolve crawler.config.cgroupRoot crawler.config.cgroupLayout id

/-- The probe for the identity of the operating system. -/
def osProbe : Probe σ OsInfo :=
  .of (fun os => some os.replyJson) OsInfo.decoder world.identify

/-- Collects a feature of a target. -/
def collect (crawler : Crawler) (target : Target) : Feature → Call σ (Except CrawlError Json)
  | .os => do
    let result ← crawler.executor.run world.namespaces world.workers target.pid
      crawler.config.namespaces (osProbe world)
    return result.map OsInfo.toJson
  | .process => do
    let result ← crawler.executor.runSequence world.namespaces world.workers target.pid
      crawler.config.namespaces (fun record => some record.replyJson) ProcessRecord.decoder
      world.listProcesses
    return result.map fun records => .array (records.map ProcessRecord.toJson)
  | .cpu => do
    let result ← Sampler.cpu world.source crawler.config.coldStartInterval target.containerId
      (crawler.files target.containerId).cpu
    return result.map fun cores => .array (cores.map CoreUsage.toJson)
  | .memory => do
    let result ← Sampler.memory world.source target.containerId
      (crawler.files target.containerId).memory
    return result.map MemoryUsage.toJson

/-- Tries to collect a feature. A failure is noticed and becomes the outcome. -/
def attempt (crawler : Crawler) (target : Target) (feature : Feature) : Call σ FeatureOutcome := do
  match ← crawler.collect world target feature with
  | .ok value => return .ok value
  | .error cause =>
    Call.perform (Action.notice (.featureFailed target.containerId feature cause))
    return .failed cause.message

/-- Tries features in order. Of two outcomes of one feature the later counts. -/
def attemptAll (crawler : Crawler) (target : Target) :
    List Feature → List (Feature × FeatureOutcome) → Call σ (List (Feature × FeatureOutcome))
  | [], outcomes => return outcomes
  | feature :: rest, outcomes => do
    let outcome ← crawler.attempt world target feature
    crawler.attemptAll target rest (Pairs.insert feature outcome outcomes)

/-- Collects every configured feature of a target. -/
def crawlContainer (crawler : Crawler) (target : Target) : Call σ ContainerReport := do
  let features ← crawler.attemptAll world target crawler.config.features []
  return ⟨target.containerId, target.pid, features⟩

/-- Crawls targets in order. -/
def crawl (crawler : Crawler) : List Target → Call σ (List ContainerReport)
  | [] => return []
  | target :: rest => do
    let report ← crawler.crawlContainer world target
    return report :: (← crawler.crawl rest)

end Crawler

end Periscope
