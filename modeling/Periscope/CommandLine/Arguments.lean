import Periscope.Cgroup.Layout
import Periscope.CommandLine.Scan
import Periscope.Error
import Periscope.Feature
import Periscope.Target

/-!
# Commands and their options

`crawl` collects features of containers, once or again and again, and `sample` shows what
containers use. The path of the configuration and the format of the log may be given to
the program or to the command; what is given to the command counts.
-/

namespace Periscope

/-- What `crawl` is asked to do. -/
structure CrawlArguments where
  /-- The containers, in the order given. -/
  targets : List Target := []
  /-- The seconds from one round to the next; without a number there is one round. -/
  every : Option UInt64 := none
  /-- The bound of isolated calls in seconds. -/
  timeout : Option UInt64 := none
  /-- The namespaces to join. -/
  namespaces : Option (List NamespaceKind) := none
  /-- What to collect. -/
  features : Option (List Feature) := none
  /-- Whether the document is spread over lines. -/
  pretty : Bool := false
  deriving DecidableEq

/-- What `sample` is asked to do. -/
structure SampleArguments where
  /-- The ids of the containers, in the order given. -/
  containers : List String := []
  /-- Where the accounting files are. -/
  cgroupRoot : Option String := none
  /-- How they are laid out. -/
  layout : Option CgroupLayout := none
  deriving DecidableEq

/-- A command of the program. -/
inductive Command where
  /-- Collects features. -/
  | crawl (arguments : CrawlArguments)
  /-- Shows what containers use. -/
  | sample (arguments : SampleArguments)
  deriving DecidableEq

/-- A command with the path of its configuration. -/
structure Invocation where
  /-- The path of the configuration, if one is named. -/
  config : Option String
  /-- The command to run. -/
  command : Command
  deriving DecidableEq

namespace CommandLine

/-- What is given to the program or to a command of it. -/
structure Draft (α : Type) where
  /-- The path of the configuration, if it was given. -/
  config : Option String := none
  /-- The other values that were given. -/
  arguments : α

variable {α : Type}

/-- A value that names a file or directory, which cannot be empty. -/
def acceptPath (set : String → Draft α → Draft α) : Effect (Draft α) :=
  .value fun path draft => if path.isEmpty then .error .usage else .ok (set path draft)

/-- Reads a value of an option, with the reason if it is wrong. -/
abbrev ValueReader (β : Type) := String → Except String β

/-- A value of an option that is read by a function whose reasons are told. -/
def acceptRead {β : Type} (option : String) (read : ValueReader β) (set : β → α → α) :
    Effect (Draft α) :=
  .value fun s draft =>
    match read s with
    | .ok value => .ok { draft with arguments := set value draft.arguments }
    | .error reason => .error (.value option s reason)

/-- The parts of a text between commas. -/
def commaParts (s : String) : List String := (s.toList.splitOnP (· = ',')).map String.ofList

/-- A value that is a list with commas, each item of which is read and told of. -/
def acceptList {β : Type} (option : String) (read : ValueReader β) (add : List β → α → α) :
    Effect (Draft α) :=
  .value fun s draft => do
    let values ← (commaParts s).mapM fun item => (read item).mapError (.value option item)
    return { draft with arguments := add values draft.arguments }

/-- Reads a 64-bit number. -/
def readWordValue : ValueReader UInt64 := fun s => (Text.readWord s).mapError NumeralError.message

/-- Reads a value as the configuration does. -/
def readConfigured {β : Type} (parse : String → Except Misconfiguration β) : ValueReader β :=
  fun s => (parse s).mapError fun cause => (CrawlError.config cause).message

/-- Reads the name of a layout. -/
def readLayout : ValueReader CgroupLayout := fun s =>
  match CgroupLayout.ofName? s with
  | some layout => .ok layout
  | none => .error ("unknown cgroup layout: " ++ s)

/-- The options that every command has. -/
def sharedOptions : List (OptionRule (Draft α)) :=
  [{ long := "config", effect := acceptPath fun path draft => { draft with config := some path } },
   { long := "json", effect := .flag fun draft => draft },
   { long := "help", short := some 'h', effect := .help }]

/-- The grammar of `crawl`. -/
def crawlGrammar : Grammar (Draft CrawlArguments) where
  options := sharedOptions ++
    [{ long := "target", short := some 't', repeats := true,
       effect := acceptRead "--target <TARGETS>" (readConfigured Target.parse) fun target a =>
        { a with targets := a.targets ++ [target] } },
     { long := "every",
       effect := acceptRead "--every <SECS>" readWordValue fun n a => { a with every := some n } },
     { long := "timeout",
       effect := acceptRead "--timeout <SECS>" readWordValue fun n a =>
        { a with timeout := some n } },
     { long := "namespaces", repeats := true,
       effect := acceptList "--namespaces <NAMESPACES>" (readConfigured NamespaceKind.parse)
        fun kinds a => { a with namespaces := some (a.namespaces.getD [] ++ kinds) } },
     { long := "feature", repeats := true,
       effect := acceptList "--feature <FEATURES>" (readConfigured Feature.parse)
        fun features a => { a with features := some (a.features.getD [] ++ features) } },
     { long := "pretty",
       effect := .flag fun draft =>
        { draft with arguments := { draft.arguments with pretty := true } } }]

/-- The grammar of `sample`. -/
def sampleGrammar : Grammar (Draft SampleArguments) where
  options := sharedOptions ++
    [{ long := "cgroup-root",
       effect := acceptPath fun path draft =>
        { draft with arguments := { draft.arguments with cgroupRoot := some path } } },
     { long := "layout",
       effect := acceptRead "--layout <LAYOUT>" readLayout fun layout a =>
        { a with layout := some layout } }]
  word? := some fun id draft =>
    { draft with
      arguments := { draft.arguments with containers := draft.arguments.containers ++ [id] } }

/-- The names of commands. -/
def commandNames : List String := ["crawl", "sample", "help"]

/-- The grammar of what stands before the command. -/
def programGrammar : Grammar (Draft Unit) where
  options := sharedOptions ++ [{ long := "version", short := some 'V', effect := .version }]
  commands := commandNames

/-- The path of the configuration, from the words or else from the environment. -/
def configOr (environment : Option String) (draft : Draft α) :
    Except Ending (Option String) :=
  match draft.config, environment with
  | some path, _ => .ok (some path)
  | none, some path => if path.isEmpty then .error (.refused .usage) else .ok none
  | none, none => .ok none

/-- Scans the words of a command to their end. -/
def scanCommand (grammar : Grammar (Draft α)) (environment : Option String) (start : α)
    (words : List String) : Except Ending (Option String × α) := do
  let (s, _) ← grammar.scan words { draft := { arguments := start } }
  let s ← s.settle
  return (← configOr environment s.draft, s.draft.arguments)

/-- Refuses a list that must not be empty. -/
def demand {β : Type} (items : List β) : Except Ending Unit :=
  if items.isEmpty then .error (.refused .usage) else .ok ()

/-- Scans the words behind the name of a command. -/
def parseCommand (environment : Option String) (name : String) (words : List String) :
    Except Ending (Option String × Command) := do
  if name = "crawl" then
    let (config, arguments) ← scanCommand crawlGrammar environment {} words
    demand arguments.targets
    return (config, .crawl arguments)
  else if name = "sample" then
    let (config, arguments) ← scanCommand sampleGrammar environment {} words
    demand arguments.containers
    return (config, .sample arguments)
  else
    match words with
    | [] => throw .help
    | [topic] => throw (if topic ∈ commandNames then .help else .refused .usage)
    | _ => throw (.refused .usage)

/-- Reads a command line. The environment may name a configuration, which counts if the
words name none. -/
def parse (environment : Option String) (words : List String) : Except Ending Invocation := do
  let (s, rest) ← programGrammar.scan words { draft := { arguments := () } }
  match rest with
  | none => throw (.refused .usage)
  | some (name, words) =>
    let (inner, command) ← parseCommand environment name words
    let s ← s.settle
    let outer ← configOr environment s.draft
    return ⟨(inner.orElse fun _ => outer).orElse fun _ => environment, command⟩

end CommandLine

end Periscope
