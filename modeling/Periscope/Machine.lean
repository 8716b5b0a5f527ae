import Periscope.Crawler
import Periscope.Host.CpuTimes
import Periscope.Host.FreeMemory
import Periscope.Machine.FileTree
import Periscope.Machine.NamespaceScript

/-!
# A machine in memory

A machine has files, a working directory, a clock that moves only when it is told to or
slept on, and rules for namespaces and for the host's own figures. It answers everything
that a program asks of its world, so that whole crawls can be run on it.
-/

namespace Periscope

/-- A clock that only moves when it is told to. While it is frozen, sleeping neither
moves it nor is it written down. -/
structure ManualClock where
  /-- How far the clock has moved. -/
  elapsed : Duration := .zero
  /-- The lengths of all sleeps, in order. -/
  sleeps : List Duration := []
  /-- Whether sleeping leaves the clock alone. -/
  frozen : Bool := false

namespace ManualClock

/-- The reading of the clock before it moved. -/
def origin : Instant := ⟨1000000 * nanosPerSecond⟩

/-- The reading of the clock. -/
def now (clock : ManualClock) : Except Panic Instant :=
  match origin.add? clock.elapsed with
  | some instant => .ok instant
  | none => .error .instantOverflow

/-- Moves the clock. -/
def advance (clock : ManualClock) (d : Duration) : Except Panic ManualClock :=
  match clock.elapsed.add? d with
  | some elapsed => .ok { clock with elapsed }
  | none => .error .durationOverflow

/-- Sleeps on the clock. -/
def sleep (clock : ManualClock) (d : Duration) : Except Panic ManualClock :=
  if clock.frozen then .ok clock
  else do
    let moved ← clock.advance d
    return { moved with sleeps := moved.sleeps ++ [d] }

end ManualClock

/-- How namespaces behave: by a script, or as files below a process directory, which can
be opened if they are there and never entered. -/
inductive NamespaceRule where
  /-- Requests fail as the script says and otherwise succeed. -/
  | script (lines : NamespaceScript)
  /-- Namespaces are files below a process directory. -/
  | files (root : String)

/-- Where the host's processor shares come from. -/
inductive HostCpuRule where
  /-- The same shares at each reading. -/
  | shares (cores : List (HostShares Float))
  /-- No reading succeeds. -/
  | failing (cause : IoError)
  /-- Shares since the latest reading of the statistics in a process directory. -/
  | statistics (root : String) (window : List CoreTicks)

/-- Where the host's free memory comes from. -/
inductive HostMemoryRule where
  /-- The same size at each reading. -/
  | bytes (free : UInt64)
  /-- No reading succeeds. -/
  | failing (cause : IoError)
  /-- The figure in a process directory. -/
  | statistics (root : String)

/-- A machine. -/
structure Machine where
  /-- All files. -/
  files : FileTree := {}
  /-- The working directory. -/
  directory : Place := []
  /-- Whether the working directory was removed. -/
  directoryGone : Bool := false
  /-- The name that the machine gives itself. -/
  hostname : String := "localhost"
  /-- What becomes of requests about namespaces. -/
  namespaces : NamespaceRule := .script []
  /-- The clock that samples are stamped with. -/
  clock : ManualClock := {}
  /-- What changes in the files during the next sleep, from the working directory. -/
  whileAsleep : List FileEdit := []
  /-- Where the processor shares of the host come from. -/
  hostCpu : HostCpuRule := .shares []
  /-- Where the free memory of the host comes from. -/
  hostMemory : HostMemoryRule := .bytes 0

namespace Machine

/-- Reads a file as a text. -/
def readText (m : Machine) (path : String) : Except IoError String :=
  if m.directoryGone ∧ ¬ isAbsolute path.toList then .error .noEntry
  else m.files.readText m.directory path

/-- Lists a directory. -/
def list (m : Machine) (path : String) : Except IoError (List String) :=
  if m.directoryGone ∧ ¬ isAbsolute path.toList then .error .noEntry
  else m.files.list m.directory path

/-- Applies changes of files, with paths from a directory. -/
def edit (m : Machine) (directory : Place) (edits : List FileEdit) : Machine :=
  { m with files := edits.foldl (fun tree e => tree.edit directory e) m.files }

/-- The working directory as a path. -/
def directoryPath (m : Machine) : Except IoError String :=
  if m.directoryGone then .error .noEntry
  else .ok ("/" ++ String.intercalate "/" m.directory)

/-- Makes a directory the working directory. -/
def changeDirectory (m : Machine) (path : String) : Option IoError × Machine :=
  match m.files.find m.directory path with
  | .ok (place, .directory) => (none, { m with directory := place, directoryGone := false })
  | .ok (_, .file _) => (some .notDirectory, m)
  | .error cause => (some cause, m)

/-- Removes a directory with everything in it. The working directory may be lost. -/
def removeDirectory (m : Machine) (place : Place) : Machine :=
  { m with
    files := m.files.remove place
    directoryGone := m.directoryGone || place.isPrefixOf m.directory }

/-- Answers a request about a namespace. -/
def answerNamespace (request : NamespaceRequest) (owner : Owner) (kind : NamespaceKind)
    (m : Machine) : Option IoError × Machine :=
  match m.namespaces with
  | .script lines =>
    let (failure, lines) := NamespaceScript.answer request owner kind lines
    (failure, { m with namespaces := .script lines })
  | .files root =>
    match request with
    | .opening =>
      match m.files.find m.directory (namespacePath root owner kind) with
      | .ok _ => (none, m)
      | .error cause => (some cause, m)
    | .entering => (some .invalidArgument, m)
    | .closing => (none, m)

/-- How the machine answers requests about namespaces and the working directory. -/
def namespaceSystem : NamespaceSystem Machine where
  openNamespace owner kind m := m.answerNamespace .opening owner kind
  enterNamespace handle m := m.answerNamespace .entering handle.owner handle.kind
  closeNamespace handle m := m.answerNamespace .closing handle.owner handle.kind
  currentDirectory m := (m.directoryPath, m)
  changeDirectory path m := m.changeDirectory path

/-- How the machine answers requests about workers, which it can always start. -/
def workerSystem : WorkerSystem Machine where
  tryChild := ChildEnding.always
  startReader m := (none, m)
  startWorker m := (none, m)
  uptime m := (ManualClock.origin, m)

/-- The shares of the host's cores. -/
def hostShares (m : Machine) : Except Panic (Except IoError (List (HostShares Float))) × Machine :=
  match m.hostCpu with
  | .shares cores => (.ok (.ok cores), m)
  | .failing cause => (.ok (.error cause), m)
  | .statistics root window =>
    let (shares, window) := readHostShares window (m.readText (hostCpuPath root))
    (shares, { m with hostCpu := .statistics root window })

/-- The free memory of the host. -/
def hostFree (m : Machine) : Except Panic (Except IoError UInt64) :=
  match m.hostMemory with
  | .bytes free => .ok (.ok free)
  | .failing cause => .ok (.error cause)
  | .statistics root => readFreeMemory (hostMemoryPath root) (m.readText (hostMemoryPath root))

/-- Sleeps. The files that were to change meanwhile have changed then, once. -/
def sleep (d : Duration) (m : Machine) : Except Panic Unit × Machine :=
  let m := { m.edit m.directory m.whileAsleep with whileAsleep := [] }
  match m.clock.sleep d with
  | .ok clock => (.ok (), { m with clock })
  | .error panic => (.error panic, m)

/-- Where samples are taken from on the machine. -/
def sampleSource : SampleSource Machine where
  readText path m := (m.readText path, m)
  now m := (m.clock.now, m)
  sleep := sleep
  hostShares := hostShares
  hostFree m := (m.hostFree, m)

/-- The files that tell the identity of the operating system; the first that can be read
counts. -/
def releasePaths : List String := ["/etc/os-release", "/usr/lib/os-release"]

/-- The identity of the machine's operating system. -/
def identify (m : Machine) : OsInfo :=
  .of m.hostname (releasePaths.findSome? fun path => (m.readText path).toOption)

/-- The entry of a process directory that has a name. -/
def processEntry (m : Machine) (root name : String) : ProcessEntry where
  name := some name
  line := (m.readText (joinPaths root [name, "stat"])).toOption

/-- The processes in a process directory. -/
def processes (m : Machine) (root : String) : Except ProbeError (List ProcessRecord) :=
  match m.list root with
  | .error cause => .error (.ofIo cause)
  | .ok names => .ok (ProcessRecord.list (names.map (m.processEntry root)))

/-- The process directory inside a container. -/
def containerProcRoot : String := "/proc"

/-- The machine as the world of a crawl. -/
def crawlWorld : CrawlWorld Machine where
  namespaces := namespaceSystem
  workers := workerSystem
  source := sampleSource
  identify s := .returned (.ok s.world.identify)
  listProcesses s := .returned ((s.world.processes containerProcRoot).map Items.ofList)

end Machine

end Periscope
