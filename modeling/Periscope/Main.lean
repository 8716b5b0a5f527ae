import Periscope.CommandLine.Heading
import Periscope.CommandLine.Program
import Std.Time.DateTime

/-!
# Running on the host

The files that a command looks at are copied into a machine, and the command runs there.
The counters of a container that has no sample yet are copied once more after the time
that the machine sleeps. Namespaces can be opened in such a copy but not entered.
-/

namespace Periscope.Main

/-- The text about how to use the program. -/
def usage : String :=
  "Usage: periscope [--config <PATH>] [--json] <COMMAND>\n\n" ++
  "Commands:\n" ++
  "  crawl   Collect features of containers, once or with --every again and again\n" ++
  "  sample  Show processor and memory use of containers\n" ++
  "  help    Print this text\n"

/-- The name and version of the program. -/
def version : String := "periscope 0.1.0\n"

/-- The variable of the environment that may name a configuration. -/
def configVariable : String := "CRAWLSPACE_CONFIG"

/-- Copies what is at a path. What is there and cannot be read counts as an empty file. -/
def copyPath (path : String) : IO (List FileEdit) := do
  match ← (IO.FS.readBinFile path).toBaseIO with
  | .ok bytes => return [.write path bytes]
  | .error _ =>
    let entry := (← IO.currentDir) / path
    if ← entry.isDir then return [.makeDirectory path]
    else if ← entry.pathExists then return [.write path ByteArray.empty]
    else return []

/-- Copies what is at several paths. -/
def copyPaths (paths : List String) : IO (List FileEdit) := do
  return (← paths.mapM copyPath).flatten

/-- The files with the counters of a container and of the host. -/
def counterPaths (config : Config) (id : String) : List String :=
  let files := ContainerFiles.resolve config.cgroupRoot config.cgroupLayout id
  [files.cpu.usage, files.cpu.stat, files.memory.stat, files.memory.limit, files.memory.usage,
    hostCpuPath config.procRoot, hostMemoryPath config.procRoot]

/-- The files of the namespaces of the program and of a process. -/
def namespacePaths (config : Config) (pid : Int32) : List String :=
  config.namespaces.flatMap fun kind =>
    [namespacePath config.procRoot .caller kind, namespacePath config.procRoot (.process pid) kind]

/-- The files that probes look at. -/
def probePaths : IO (List String) := do
  let root := Machine.containerProcRoot
  let names ← match ← ((← IO.currentDir) / root).readDir.toBaseIO with
    | .ok entries => pure (entries.toList.map (·.fileName))
    | .error _ => pure []
  let processes := names.filter fun name => (ProcessRecord.pidOfName name).isSome
  return Machine.releasePaths ++ processes.map fun name => joinPaths root [name, "stat"]

/-- Waits. -/
def pause (d : Duration) : IO Unit := IO.sleep (UInt32.ofNat (min (d.nanos / 1000000) 4294967295))

/-- A machine like the host, without files yet. -/
def emptyMachine : IO Machine := do
  let hostname ← (IO.FS.readFile "/proc/sys/kernel/hostname").toBaseIO
  return {
    directory := Place.names (toString (← IO.currentDir))
    hostname := Text.trim (hostname.toOption.getD "localhost") }

/-- Copies the files at some paths and the counters of a container anew. -/
def refresh (config : Config) (id : String) (paths : List String) (s : Session Machine) :
    IO (Session Machine) := do
  let m := s.world
  let counters := counterPaths config id
  let now ← copyPaths (counters ++ paths)
  let elapsed := (Duration.ofNanos? (← IO.monoNanosNow)).getD .zero
  let later ← if (Pairs.find? id s.samples).isSome then pure []
    else do
      pause config.coldStartInterval
      copyPaths counters
  let m := { m.edit m.directory now with whileAsleep := later, clock := { elapsed } }
  return { s with world := m }

/-- Forgets the copied files and tells the errors that were noticed. -/
def settle (s : Session Machine) : IO (Session Machine) := do
  for entry in s.journal do
    match entry with
    | .noticed n 0 => if n.level = .error then IO.eprintln n.message
    | _ => pure ()
  return { s with world := { s.world with files := {} }, journal := [] }

/-- Prints a text at once. -/
def say (text : String) : IO Unit := do
  let out ← IO.getStdout
  out.putStr text
  out.flush

/-- Ends the program as a run ended. -/
def conclude (r : RunResult) : IO UInt32 := do
  say r.output
  if let some message := r.message then IO.eprintln message
  return UInt32.ofNat r.status

/-- Crawls targets in order. -/
def crawlTargets (crawler : Crawler) :
    List Target → Session Machine → IO (Except Halt (List ContainerReport) × Session Machine)
  | [], s => return (.ok [], s)
  | target :: rest, s => do
    let paths := namespacePaths crawler.config target.pid ++ (← probePaths)
    let s ← refresh crawler.config target.containerId paths s
    match (crawler.crawlContainer Machine.crawlWorld target).run s with
    | (.error halt, s) => return (.error halt, ← settle s)
    | (.ok report, s) =>
      let (reports, s) ← crawlTargets crawler rest (← settle s)
      return (reports.map (report :: ·), s)

/-- Crawls for one round and prints it. -/
def crawlRound (crawler : Crawler) (arguments : CrawlArguments) (s : Session Machine) :
    IO (Option Halt × Session Machine) := do
  let id := Heading.identifier (← IO.getRandomBytes 16).toList
  let now := (← Std.Time.Timestamp.now).toNanosecondsSinceUnixEpoch
  let start := Std.Time.PlainDateTime.ofWallTime (.ofNanoseconds now)
  match ← crawlTargets crawler arguments.targets s with
  | (.error halt, s) => return (some halt, s)
  | (.ok reports, s) =>
    say (Program.roundText arguments.pretty id (Heading.timeText start) reports ++ "\n")
    return (none, s)

/-- Crawls once, or again and again. -/
partial def crawl (crawler : Crawler) (arguments : CrawlArguments) (s : Session Machine) :
    IO UInt32 := do
  match ← crawlRound crawler arguments s with
  | (some halt, _) => conclude (Program.stopped "" halt)
  | (none, s) =>
    match arguments.every with
    | none => return 0
    | some seconds =>
      pause (.ofSeconds seconds)
      crawl crawler arguments s

/-- Prints the lines of containers. -/
def sample (config : Config) : List String → Session Machine → IO UInt32
  | [], _ => return 0
  | id :: rest, s => do
    match (Program.sampleLine config id).run (← refresh config id [] s) with
    | (.error halt, _) => conclude (Program.stopped "" halt)
    | (.ok line, s) =>
      say (line ++ "\n")
      sample config rest (← settle s)

/-- Runs a command. -/
def runCommand (config : Config) (m : Machine) : Command → IO UInt32
  | .crawl arguments =>
    match Program.prepareCrawl arguments config with
    | .error message => conclude (Program.failed "" message)
    | .ok crawler => crawl crawler arguments { world := Program.configure crawler.config m }
  | .sample arguments =>
    match Program.prepareSample arguments config with
    | .error message => conclude (Program.failed "" message)
    | .ok config => do
      say (SampleTable.header ++ "\n")
      sample config arguments.containers { world := Program.configure config m }

/-- Runs the program on the host. -/
def run (words : List String) : IO UInt32 := do
  match CommandLine.parse (← IO.getEnv configVariable) words with
  | .error .help => conclude { Program.unaccepted .help with output := usage }
  | .error .version => conclude { Program.unaccepted .version with output := version }
  | .error (.refused cause) =>
    IO.eprintln usage
    conclude (Program.unaccepted (.refused cause))
  | .ok invocation =>
    let m ← emptyMachine
    let copied := m.edit m.directory (← copyPaths invocation.config.toList)
    match Program.loadConfig invocation.config copied.readText with
    | .error message => conclude (Program.failed "" message)
    | .ok config => runCommand config m invocation.command

end Periscope.Main

/-- Runs the program. -/
def main (words : List String) : IO UInt32 := Periscope.Main.run words
