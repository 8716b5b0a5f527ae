import Periscope.Duration
import Periscope.IoError
import Periscope.Misconfiguration
import Periscope.Namespace.Kind

/-!
# Errors of a crawl

What fails inside a container is handed over as plain data, a class and a text. All
other errors keep their cause.
-/

namespace Periscope

/-- A failure that a probe reports. -/
structure ProbeError where
  /-- The class of the failure. -/
  kind : String
  /-- The text of the failure. -/
  message : String
  deriving Repr, DecidableEq

/-- What can go wrong in a crawl. -/
inductive CrawlError where
  /-- A file could not be read. -/
  | io (path : String) (cause : IoError)
  /-- A request was refused. -/
  | config (cause : Misconfiguration)
  /-- The mount namespace of the target could not be joined. -/
  | namespaceAttach (kind : NamespaceKind) (cause : IoError)
  /-- The host's mount namespace could not be entered again. -/
  | namespaceRestore (kind : NamespaceKind) (cause : IoError)
  /-- No reply came in time. -/
  | isolationTimeout (pid : Int32) (timeout : Duration)
  /-- The probe ran and failed. -/
  | probe (failure : ProbeError)
  /-- The worker ended, or spoiled the pipe, without a reply. -/
  | workerCrashed (pid : Int32) (detail : String)
  /-- A worker could not be started. -/
  | fork (cause : IoError)
  /-- A container's accounting files could not be read. -/
  | resourceSample (container : String) (message : String)
  /-- A document could not be decoded. -/
  | serialization (cause : JsonError)
  deriving DecidableEq

namespace ProbeError

/-- The class and the text in one line. -/
def text (e : ProbeError) : String := e.kind ++ ": " ++ e.message

/-- An error of the system as a probe reports it. -/
def ofIo (e : IoError) : ProbeError := ⟨e.kind.name, e.message⟩

/-- A probe's failure as JSON. -/
def toJson (e : ProbeError) : Json :=
  .object [("kind", .text e.kind), ("message", .text e.message)]

/-- The fields of a failure that were read so far. -/
structure Draft where
  kind : Option String := none
  message : Option String := none

/-- The fields of a failure. -/
def fields : List (Json.Decoder.Field Draft) :=
  [.of "kind" Json.Decoder.text Draft.kind fun kind draft => { draft with kind := some kind },
   .of "message" Json.Decoder.text Draft.message fun message draft =>
    { draft with message := some message }]

/-- The failure of a draft, if nothing is missing. -/
def ofDraft (draft : Draft) : Option ProbeError := return ⟨← draft.kind, ← draft.message⟩

/-- A probe's failure from JSON. -/
def decoder : Json.Decoder ProbeError := Json.Decoder.record fields {} ofDraft false

end ProbeError

namespace CrawlError

/-- The name of the class of an error. -/
def kindName : CrawlError → String
  | .io .. => "Io"
  | .config .. => "Config"
  | .namespaceAttach .. => "NamespaceAttach"
  | .namespaceRestore .. => "NamespaceRestore"
  | .isolationTimeout .. => "IsolationTimeout"
  | .probe .. => "Probe"
  | .workerCrashed .. => "WorkerCrashed"
  | .fork .. => "Fork"
  | .resourceSample .. => "ResourceSample"
  | .serialization .. => "Serialization"

/-- The wording of an error. -/
def message : CrawlError → String
  | .io path cause => "I/O error at " ++ path ++ ": " ++ cause.message
  | .config cause => "invalid configuration: " ++ cause.message
  | .namespaceAttach kind cause =>
    "failed to attach to " ++ kind.name ++ " namespace: " ++ cause.message
  | .namespaceRestore kind cause =>
    "failed to restore host " ++ kind.name ++ " namespace: " ++ cause.message
  | .isolationTimeout pid timeout =>
    "isolated call into pid " ++ toString pid ++ " timed out after " ++ timeout.text
  | .probe failure => failure.text
  | .workerCrashed pid detail =>
    "worker for pid " ++ toString pid ++ " exited without a result: " ++ detail
  | .fork cause => "failed to fork worker: " ++ cause.message
  | .resourceSample container message =>
    "resource sample for container " ++ container ++ " failed: " ++ message
  | .serialization cause => "serialization error: " ++ cause.message

end CrawlError

/-- An error of a crawl as a probe reports it. A failure that already came from a probe
stays as it is. -/
def ProbeError.ofCrawl : CrawlError → ProbeError
  | .probe failure => failure
  | .resourceSample container message =>
    ⟨"ResourceSample", (CrawlError.resourceSample container message).message⟩
  | e => ⟨"Crawl", e.message⟩

end Periscope
