import Periscope.Error

/-!
# Replies of a worker

A worker replies with the value of its probe or with the probe's failure. As JSON a reply
is an object whose one member tells which of the two it is.
-/

namespace Periscope

/-- What a worker sends back. -/
abbrev Reply (α : Type) := Except ProbeError α

namespace Reply

/-- A reply with its value as JSON, unless JSON cannot express the value. -/
def inJson? {α : Type} (encode : α → Option Json) : Reply α → Option (Reply Json)
  | .ok value => (encode value).map .ok
  | .error failure => some (.error failure)

/-- A reply as JSON. -/
def toJson {α : Type} (encode : α → Json) : Reply α → Json
  | .ok value => .object [("Ok", encode value)]
  | .error failure => .object [("Err", failure.toJson)]

/-- How the member with a given name is read. -/
def payload? {α : Type} (value : Json.Decoder α) (name : String) :
    Option (Json.Decoder (Reply α)) :=
  if name = "Ok" then some fun depth => do return .ok (← value depth)
  else if name = "Err" then some fun depth => do return .error (← ProbeError.decoder depth)
  else none

/-- A reply from JSON. -/
def decoder {α : Type} (value : Json.Decoder α) : Json.Decoder (Reply α) :=
  Json.Decoder.variant (payload? value)

end Reply

end Periscope
