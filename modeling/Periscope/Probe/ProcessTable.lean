import Periscope.Json.Decoder
import Periscope.Text.Blank
import Periscope.Text.Numeral
import Periscope.Text.Offset

/-!
# The process table

Each process has a directory that is named by its number and holds a line about it. The
command stands in parentheses and may have blanks and parentheses of its own, so it
reaches from the first opening to the last closing one.
-/

namespace Periscope

/-- A process. -/
structure ProcessRecord where
  /-- The number of the process. -/
  pid : Int32
  /-- The number of the process that started it. -/
  ppid : Int32
  /-- The name of its program. -/
  command : String
  /-- Its state, mostly one letter. -/
  state : String
  deriving Repr, DecidableEq

/-- An entry of the process table. -/
structure ProcessEntry where
  /-- Its name, if it is a text. -/
  name : Option String
  /-- The line about its process, if there is one to read. -/
  line : Option String
  deriving Repr, DecidableEq

namespace ProcessRecord

/-- The command and what stands behind it. A parenthesis that closes before the first one opens
makes the line unreadable. -/
def splitCommand (line : List Char) : Option (List Char × List Char) := do
  let opening ← firstOffset? '(' line
  let closing ← lastOffset? ')' line
  let command ← slice? (opening + 1) closing line
  let rest ← sliceFrom? (closing + 1) line
  return (command, rest)

/-- The process that a command and what stands behind it tell. -/
def ofParts (pid : Int32) : List Char × List Char → Option ProcessRecord
  | (command, rest) =>
    match fieldsOf rest with
    | state :: ppid :: _ =>
      match Text.readInt32 (String.ofList ppid) with
      | .ok ppid => some ⟨pid, ppid, String.ofList command, String.ofList state⟩
      | .error _ => none
    | _ => none

/-- Reads the line about a process. -/
def parse (pid : Int32) (line : String) : Option ProcessRecord :=
  (splitCommand line.toList).bind (ofParts pid)

/-- The number that names a directory of the process table. -/
def pidOfName (name : String) : Option Int32 :=
  match Text.readInt32 name with
  | .ok pid => some pid
  | .error _ => none

/-- The process of an entry, unless its name is no number or its line cannot be read. -/
def ofEntry (entry : ProcessEntry) : Option ProcessRecord := do
  let pid ← pidOfName (← entry.name)
  parse pid (← entry.line)

/-- Lists the processes of a table. An entry without one is left out. -/
def list (entries : List ProcessEntry) : List ProcessRecord := entries.filterMap ofEntry

/-- A process as JSON. -/
def toJson (p : ProcessRecord) : Json :=
  .object
    [("command", .text p.command), ("pid", .integer p.pid.toInt),
     ("ppid", .integer p.ppid.toInt), ("state", .text p.state)]

/-- A process in a worker's reply, where the members stand in the order of the fields. -/
def replyJson (p : ProcessRecord) : Json :=
  .object
    [("pid", .integer p.pid.toInt), ("ppid", .integer p.ppid.toInt),
     ("command", .text p.command), ("state", .text p.state)]

/-- The fields of a process that were read so far. -/
structure Draft where
  pid : Option Int32 := none
  ppid : Option Int32 := none
  command : Option String := none
  state : Option String := none

/-- The fields of a process. -/
def fields : List (Json.Decoder.Field Draft) :=
  [.of "pid" Json.Decoder.int32 Draft.pid fun pid draft => { draft with pid := some pid },
   .of "ppid" Json.Decoder.int32 Draft.ppid fun ppid draft => { draft with ppid := some ppid },
   .of "command" Json.Decoder.text Draft.command fun command draft =>
    { draft with command := some command },
   .of "state" Json.Decoder.text Draft.state fun state draft =>
    { draft with state := some state }]

/-- The process of a draft, if nothing is missing. -/
def ofDraft (draft : Draft) : Option ProcessRecord :=
  return ⟨← draft.pid, ← draft.ppid, ← draft.command, ← draft.state⟩

/-- A process from JSON. -/
def decoder : Json.Decoder ProcessRecord := Json.Decoder.record fields {} ofDraft false

end ProcessRecord

end Periscope
