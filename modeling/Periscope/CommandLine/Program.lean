import Periscope.CommandLine.Arguments
import Periscope.CommandLine.Table
import Periscope.Json.Printer
import Periscope.Machine
import Periscope.Text.Plain

/-!
# Running a command

Options given to a command take the place of the configuration's settings, and the result
must be valid. `crawl` prints one JSON document for each round, `sample` a table. A
command line that is refused ends with status 2, an error with status 1, and a call that
stopped with status 101.
-/

namespace Periscope

/-- What a run of the program leaves behind. -/
structure RunResult where
  /-- The number that the program ends with. -/
  status : Nat
  /-- What was printed. -/
  output : String
  /-- The wording of the error, if there is one. -/
  message : Option String
  deriving Repr, DecidableEq

/-- The configuration with the options of `crawl` in place of its settings. -/
def CrawlArguments.apply (arguments : CrawlArguments) (config : Config) : Config :=
  { config with
    isolationTimeoutSecs := arguments.timeout.getD config.isolationTimeoutSecs
    namespaces := arguments.namespaces.getD config.namespaces
    features := arguments.features.getD config.features }

/-- The configuration with the options of `sample` in place of its settings. -/
def SampleArguments.apply (arguments : SampleArguments) (config : Config) : Config :=
  { config with
    cgroupRoot := arguments.cgroupRoot.getD config.cgroupRoot
    cgroupLayout := arguments.layout.getD config.cgroupLayout }

namespace Program

/-- The wording of an error. -/
def errorLine (message : String) : String := "Error: " ++ message

/-- The end of a run with an error. -/
def failed (output message : String) : RunResult := ⟨1, output, some (errorLine message)⟩

/-- The end of a run that stopped on the way. -/
def stopped (output : String) : Halt → RunResult
  | .panicked cause => ⟨101, output, some cause.message⟩
  | .aborted => ⟨134, output, none⟩

/-- The end of a run whose command line was not accepted. Words of it that the message tells
of may hold control sequences, which are left out. -/
def unaccepted : Ending → RunResult
  | .help => ⟨0, "", none⟩
  | .version => ⟨0, "", none⟩
  | .refused cause => ⟨2, "", cause.message?.map Text.plain⟩

/-- The configuration of a run. Without a path it is the default one. -/
def loadConfig (path : Option String) (readText : String → Except IoError String) :
    Except String Config :=
  match path with
  | none => .ok {}
  | some path =>
    (Config.load path (readText path)).mapError fun e =>
      "failed to load " ++ path ++ ": " ++ e.message

/-- A crawler with the options of `crawl`. -/
def prepareCrawl (arguments : CrawlArguments) (config : Config) : Except String Crawler := do
  let crawler ← (Crawler.ofConfig (arguments.apply config)).mapError CrawlError.message
  if arguments.every = some 0 then throw "--every must be positive"
  return crawler

/-- The configuration of `sample`. -/
def prepareSample (arguments : SampleArguments) (config : Config) : Except String Config := do
  let config := arguments.apply config
  config.validate.mapError fun e => (CrawlError.config e).message
  return config

/-- The document of a round. -/
def roundText (pretty : Bool) (id startedAt : String) (reports : List ContainerReport) : String :=
  let document : Json := .object
    [("id", .text id), ("started_at", .text startedAt),
     ("containers", .array (reports.map ContainerReport.toJson))]
  if pretty then document.pretty else document.compact

/-- A machine that follows a configuration: its namespaces and the host's figures are
files below the process directory. -/
def configure (config : Config) (m : Machine) : Machine :=
  { m with
    namespaces := .files config.procRoot
    hostCpu := .statistics config.procRoot []
    hostMemory := .statistics config.procRoot }

/-- The line of a container in the table. -/
def sampleLine (config : Config) (id : String) : Call Machine String := do
  let files := ContainerFiles.resolve config.cgroupRoot config.cgroupLayout id
  match ← Sampler.cpu Machine.sampleSource config.coldStartInterval id files.cpu with
  | .error cause => return SampleTable.cpuFailure id cause
  | .ok cores =>
    let memory ← Sampler.memory Machine.sampleSource id files.memory
    return SampleTable.line id cores memory

/-- Prints the lines of containers behind what was printed before. -/
def sampleLines (config : Config) : List String → String → Session Machine → RunResult
  | [], output, _ => ⟨0, output, none⟩
  | id :: rest, output, s =>
    match (sampleLine config id).run s with
    | (.ok line, s) => sampleLines config rest (output ++ line ++ "\n") s
    | (.error halt, _) => stopped output halt

/-- Runs `sample`. -/
def runSample (arguments : SampleArguments) (config : Config) (m : Machine) : RunResult :=
  match prepareSample arguments config with
  | .error message => failed "" message
  | .ok config =>
    sampleLines config arguments.containers (SampleTable.header ++ "\n")
      { world := configure config m }

/-- Runs `crawl` for one round. A run that would go on is interrupted behind it; the time
of its next round must be an instant. -/
def runCrawl (arguments : CrawlArguments) (config : Config) (id startedAt : String) (m : Machine) :
    RunResult :=
  match prepareCrawl arguments config with
  | .error message => failed "" message
  | .ok crawler =>
    match (crawler.crawl Machine.crawlWorld arguments.targets).run
        { world := configure crawler.config m } with
    | (.error halt, _) => stopped "" halt
    | (.ok reports, _) =>
      let output := roundText arguments.pretty id startedAt reports ++ "\n"
      match arguments.every with
      | none => ⟨0, output, none⟩
      | some seconds =>
        match ManualClock.origin.add? (.ofSeconds seconds) with
        | some _ => ⟨0, output, none⟩
        | none => stopped output (.panicked .instantOverflow)

/-- Runs the program on a machine. -/
def run (environment : Option String) (words : List String) (id startedAt : String)
    (m : Machine) : RunResult :=
  match CommandLine.parse environment words with
  | .error ending => unaccepted ending
  | .ok invocation =>
    match loadConfig invocation.config m.readText with
    | .error message => failed "" message
    | .ok config =>
      match invocation.command with
      | .crawl arguments => runCrawl arguments config id startedAt m
      | .sample arguments => runSample arguments config m

end Program

end Periscope
