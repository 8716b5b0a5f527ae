import Periscope.Feature
import Periscope.Json.Decoder

/-!
# Reports

A report tells for each collected feature of a container either its value or why there is
none. Features are listed in report order.
-/

namespace Periscope

/-- What became of a feature. -/
inductive FeatureOutcome where
  /-- The feature was collected. -/
  | ok (value : Json)
  /-- It was not, for the reason in the text. -/
  | failed (error : String)

/-- What is known about a container. -/
structure ContainerReport where
  /-- The container that the report is about. -/
  containerId : String
  /-- The process through which it was reached. -/
  pid : Int32
  /-- The outcomes of the collected features, in report order. -/
  features : List (Feature × FeatureOutcome)

namespace FeatureOutcome

/-- Whether the feature was collected. -/
def isOk : FeatureOutcome → Bool
  | .ok _ => true
  | .failed _ => false

/-- An outcome as JSON. -/
def toJson : FeatureOutcome → Json
  | .ok value => .object [("status", .text "ok"), ("value", value)]
  | .failed error => .object [("status", .text "failed"), ("error", .text error)]

/-- The two kinds of outcomes. -/
inductive Status where
  | ok
  | failed
  deriving Repr, DecidableEq

/-- Reads the kind of an outcome. -/
def readStatus (depth : Nat) : Json.Reader Status := do
  let word ← Json.Decoder.text depth
  if word = "ok" then pure .ok
  else if word = "failed" then pure .failed
  else throw .invalid

/-- The outcome with the given content. -/
def ofContent : Status → Json → Option FeatureOutcome
  | .ok, value => some (.ok value)
  | .failed, .text error => some (.failed error)
  | .failed, _ => none

/-- The name of the member with the content. -/
def Status.contentName : Status → String
  | .ok => "value"
  | .failed => "error"

/-- The members of an outcome that were read so far, the latest first. -/
structure Draft where
  status : Option Status := none
  members : List (String × Json) := []

/-- Reads a member of an outcome. The kind may come late, so the others are kept. -/
def readMember (depth : Nat) (draft : Draft) : Json.Reader Draft := do
  let name ← Json.readQuoted
  if name = "status" then
    if draft.status.isSome then throw .invalid
    Json.readColon
    return { draft with status := some (← readStatus depth) }
  else
    Json.readColon
    return { draft with members := (name, ← Json.readValue depth) :: draft.members }

/-- The outcome of all members. The content must be there once; other members do not
matter. -/
def ofDraft (draft : Draft) : Option FeatureOutcome := do
  let status ← draft.status
  match draft.members.filter (·.1 = status.contentName) with
  | [(_, content)] => ofContent status content
  | _ => none

/-- Reads an outcome from the items of an array: its kind and its content. -/
def readItems (depth : Nat) : Json.Reader (Option FeatureOutcome) := do
  if ← Json.nextPart ']' true then
    let status ← readStatus depth
    return match ← Json.readMoreItems (Json.readValue depth) with
      | [content] => ofContent status content
      | _ => none
  else throw .invalid

/-- An outcome from JSON. -/
def decoder : Json.Decoder FeatureOutcome := fun depth => do
  let outcome ← match ← Json.peekStart with
    | .brace =>
      Json.Decoder.opened
        (fun depth => do return ofDraft (← Json.readMembers (readMember depth) {})) depth
    | .bracket => Json.Decoder.opened readItems depth
    | _ => Json.refuse
  match outcome with
  | some outcome => pure outcome
  | none => throw .invalid

end FeatureOutcome

namespace ContainerReport

/-- A report as JSON. -/
def toJson (report : ContainerReport) : Json :=
  .object
    [("container_id", .text report.containerId), ("pid", .integer report.pid.toInt),
     ("features", .object (report.features.map fun f => (f.1.name, f.2.toJson)))]

/-- Reads the outcome of a feature. Of two outcomes of one feature the later counts. -/
def readFeature (depth : Nat) (read : List (Feature × FeatureOutcome)) :
    Json.Reader (List (Feature × FeatureOutcome)) := do
  match Feature.ofName? (← Json.readQuoted) with
  | none => throw .invalid
  | some feature =>
    Json.readColon
    return Pairs.insert feature (← FeatureOutcome.decoder depth) read

/-- Outcomes by feature from JSON. -/
def featuresDecoder : Json.Decoder (List (Feature × FeatureOutcome)) := fun depth => do
  match ← Json.peekStart with
  | .brace => Json.Decoder.opened (fun depth => Json.readMembers (readFeature depth) []) depth
  | _ => Json.refuse

/-- The fields of a report that were read so far. -/
structure Draft where
  containerId : Option String := none
  pid : Option Int32 := none
  features : Option (List (Feature × FeatureOutcome)) := none

/-- The fields of a report. -/
def fields : List (Json.Decoder.Field Draft) :=
  [.of "container_id" Json.Decoder.text Draft.containerId fun containerId draft =>
    { draft with containerId := some containerId },
   .of "pid" Json.Decoder.int32 Draft.pid fun pid draft => { draft with pid := some pid },
   .of "features" featuresDecoder Draft.features fun features draft =>
    { draft with features := some features }]

/-- The report of a draft, if nothing is missing. -/
def ofDraft (draft : Draft) : Option ContainerReport :=
  return ⟨← draft.containerId, ← draft.pid, ← draft.features⟩

/-- A report from JSON. -/
def decoder : Json.Decoder ContainerReport := Json.Decoder.record fields {} ofDraft false

end ContainerReport

end Periscope
