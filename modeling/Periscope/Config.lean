import Periscope.Cgroup.Layout
import Periscope.Error
import Periscope.Feature

/-!
# Configuration

Every setting has a default, so a file may give any part of them. A configuration is
valid if both of its bounds are positive.
-/

namespace Periscope

/-- The settings of a crawl. -/
structure Config where
  /-- How many seconds an isolated call may take. -/
  isolationTimeoutSecs : UInt64 := 30
  /-- The namespaces that isolated features join. -/
  namespaces : List NamespaceKind := NamespaceKind.all
  /-- Where the host's process directory is. -/
  procRoot : String := "/proc"
  /-- Where the host's accounting files are. -/
  cgroupRoot : String := "/sys/fs/cgroup"
  /-- How the accounting files are laid out. -/
  cgroupLayout : CgroupLayout := .v1
  /-- How many milliseconds pass between the two readings of a first sample. -/
  coldStartIntervalMs : UInt64 := 100
  /-- What is collected for every target. -/
  features : List Feature := Feature.all
  deriving DecidableEq

namespace Config

/-- Whether all settings are the default ones. Of a path only the parts matter. -/
def isDefault (config : Config) : Bool :=
  let default : Config := {}
  samePath config.procRoot default.procRoot && samePath config.cgroupRoot default.cgroupRoot &&
    { config with procRoot := default.procRoot, cgroupRoot := default.cgroupRoot } = default

/-- Refuses bounds that are not positive. -/
def validate (config : Config) : Except Misconfiguration Unit :=
  if config.isolationTimeoutSecs = 0 then .error .zeroTimeout
  else if config.coldStartIntervalMs = 0 then .error .zeroColdStart
  else .ok ()

/-- How long an isolated call may take. -/
def isolationTimeout (config : Config) : Duration := .ofSeconds config.isolationTimeoutSecs

/-- How long to wait between two readings when there is no earlier one. -/
def coldStartInterval (config : Config) : Duration := .ofMillis config.coldStartIntervalMs

/-- A configuration as JSON. -/
def toJson (config : Config) : Json :=
  .ofMembers
    [("isolation_timeout_secs", .integer config.isolationTimeoutSecs.toNat),
     ("namespaces", .array (config.namespaces.map NamespaceKind.toJson)),
     ("proc_root", .text config.procRoot),
     ("cgroup_root", .text config.cgroupRoot),
     ("cgroup_layout", config.cgroupLayout.toJson),
     ("cold_start_interval_ms", .integer config.coldStartIntervalMs.toNat),
     ("features", .array (config.features.map Feature.toJson))]

/-- The settings that were read so far. -/
structure Draft where
  isolationTimeoutSecs : Option UInt64 := none
  namespaces : Option (List NamespaceKind) := none
  procRoot : Option String := none
  cgroupRoot : Option String := none
  cgroupLayout : Option CgroupLayout := none
  coldStartIntervalMs : Option UInt64 := none
  features : Option (List Feature) := none

/-- The configuration with the settings of a draft and defaults for all others. -/
def ofDraft (draft : Draft) : Config :=
  let default : Config := {}
  { isolationTimeoutSecs := draft.isolationTimeoutSecs.getD default.isolationTimeoutSecs
    namespaces := draft.namespaces.getD default.namespaces
    procRoot := draft.procRoot.getD default.procRoot
    cgroupRoot := draft.cgroupRoot.getD default.cgroupRoot
    cgroupLayout := draft.cgroupLayout.getD default.cgroupLayout
    coldStartIntervalMs := draft.coldStartIntervalMs.getD default.coldStartIntervalMs
    features := draft.features.getD default.features }

/-- The settings by name, in the order of the array form. -/
def fields : List (Json.Decoder.Field Draft) :=
  [.of "isolation_timeout_secs" Json.Decoder.word Draft.isolationTimeoutSecs fun seconds draft =>
    { draft with isolationTimeoutSecs := some seconds },
   .of "namespaces" (Json.Decoder.list NamespaceKind.decoder) Draft.namespaces fun kinds draft =>
    { draft with namespaces := some kinds },
   .of "proc_root" Json.Decoder.text Draft.procRoot fun root draft =>
    { draft with procRoot := some root },
   .of "cgroup_root" Json.Decoder.text Draft.cgroupRoot fun root draft =>
    { draft with cgroupRoot := some root },
   .of "cgroup_layout" CgroupLayout.decoder Draft.cgroupLayout fun layout draft =>
    { draft with cgroupLayout := some layout },
   .of "cold_start_interval_ms" Json.Decoder.word Draft.coldStartIntervalMs fun interval draft =>
    { draft with coldStartIntervalMs := some interval },
   .of "features" (Json.Decoder.list Feature.decoder) Draft.features fun features draft =>
    { draft with features := some features }]

/-- A configuration from JSON. -/
def decoder : Json.Decoder Config :=
  Json.Decoder.record fields {} (fun draft => some (ofDraft draft)) true

/-- Reads a configuration file, of which the text or the error in its place is given. -/
def load (path : String) (content : Except IoError String) : Except CrawlError Config := do
  let content ← content.mapError (CrawlError.io path)
  let config ← (Json.decodeText decoder content).mapError CrawlError.serialization
  config.validate.mapError CrawlError.config
  return config

end Config

end Periscope
