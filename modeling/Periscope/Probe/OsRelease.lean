import Periscope.Json.Decoder
import Periscope.Pairs
import Periscope.Text.Blank

/-!
# The identity of an operating system

A release file has a key and a value on each line, joined by the first equals sign. One
pair of quotes around a value is dropped. Lines that start with `#` and lines without an
equals sign say nothing, and of two lines with one key the later counts.
-/

namespace Periscope

/-- Drops a quote at both ends of a text. One character cannot be both of them. -/
def unquote (quote : Char) (s : List Char) : Option (List Char) :=
  match s with
  | [] => none
  | first :: rest =>
    if first = quote ∧ rest.getLast? = some quote then some rest.dropLast else none

/-- Splits at the first occurrence of a separator. -/
def splitFirst (separator : Char) : List Char → Option (List Char × List Char)
  | [] => none
  | c :: rest =>
    if c = separator then some ([], rest)
    else (splitFirst separator rest).map fun parts => (c :: parts.1, parts.2)

/-- A value without its quotes. -/
def releaseValue (s : List Char) : List Char :=
  let value := trimBlanks s
  ((unquote '"' value).orElse fun _ => unquote '\'' value).getD value

/-- The key and value of a line. -/
def releaseLine (line : List Char) : Option (String × String) :=
  let line := trimBlanks line
  if line.head? = some '#' then none
  else
    (splitFirst '=' line).map fun (key, value) =>
      (String.ofList (trimBlanks key), String.ofList (releaseValue value))

/-- The keys and values of a release file. -/
def parseOsRelease (content : String) : List (String × String) :=
  Pairs.ofList ((linesOf content.toList).filterMap releaseLine)

/-- What a container's operating system is. -/
structure OsInfo where
  /-- The name of the host. -/
  hostname : String
  /-- The name of the system for programs. -/
  id : Option String
  /-- Its version for programs. -/
  versionId : Option String
  /-- Its name for people. -/
  prettyName : Option String
  deriving Repr, DecidableEq

namespace OsInfo

/-- The identity told by a host name and a release file, if there is one. -/
def of (hostname : String) (release : Option String) : OsInfo :=
  let entries := (release.map parseOsRelease).getD []
  { hostname
    id := Pairs.find? "ID" entries
    versionId := Pairs.find? "VERSION_ID" entries
    prettyName := Pairs.find? "PRETTY_NAME" entries }

/-- An identity as JSON. -/
def toJson (os : OsInfo) : Json :=
  .object
    [("hostname", .text os.hostname), ("id", .ofText? os.id),
     ("pretty_name", .ofText? os.prettyName), ("version_id", .ofText? os.versionId)]

/-- An identity in a worker's reply, where the members stand in the order of the fields. -/
def replyJson (os : OsInfo) : Json :=
  .object
    [("hostname", .text os.hostname), ("id", .ofText? os.id),
     ("version_id", .ofText? os.versionId), ("pretty_name", .ofText? os.prettyName)]

/-- The fields of an identity that were read so far. -/
structure Draft where
  hostname : Option String := none
  id : Option (Option String) := none
  versionId : Option (Option String) := none
  prettyName : Option (Option String) := none

/-- A name that may be missing, from JSON. -/
def nameDecoder : Json.Decoder (Option String) := Json.Decoder.option Json.Decoder.text

/-- The fields of an identity. -/
def fields : List (Json.Decoder.Field Draft) :=
  [.of "hostname" Json.Decoder.text Draft.hostname fun hostname draft =>
    { draft with hostname := some hostname },
   .of "id" nameDecoder Draft.id fun id draft => { draft with id := some id },
   .of "version_id" nameDecoder Draft.versionId fun versionId draft =>
    { draft with versionId := some versionId },
   .of "pretty_name" nameDecoder Draft.prettyName fun prettyName draft =>
    { draft with prettyName := some prettyName }]

/-- The identity of a draft. Only the host name must be there. -/
def ofDraft (draft : Draft) : Option OsInfo :=
  return {
    hostname := ← draft.hostname
    id := draft.id.getD none
    versionId := draft.versionId.getD none
    prettyName := draft.prettyName.getD none }

/-- An identity from JSON. -/
def decoder : Json.Decoder OsInfo := Json.Decoder.record fields {} ofDraft false

end OsInfo

end Periscope
