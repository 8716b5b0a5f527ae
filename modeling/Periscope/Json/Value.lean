import Periscope.Pairs

/-!
# JSON values

A number is an integer of 64 bits, signed or unsigned, or a double. The members of an
object are written in the order in which they stand; those of an object that was read
are in the order of their names, each name once.
-/

namespace Periscope

/-- A JSON value. -/
inductive Json where
  /-- The value that says nothing. -/
  | null
  /-- A truth value. -/
  | bool (value : Bool)
  /-- A number of 64 bits. -/
  | integer (value : Int)
  /-- A double. -/
  | decimal (value : Float)
  /-- A text. -/
  | text (value : String)
  /-- A list of values. -/
  | array (items : List Json)
  /-- Values by name. -/
  | object (members : List (String × Json))
  deriving Inhabited

namespace Json

/-- An object from its members in any order; of two with one name the later counts. -/
def ofMembers (members : List (String × Json)) : Json := .object (Pairs.ofList members)

/-- A member of an object. -/
def member? (name : String) : Json → Option Json
  | .object members => Pairs.find? name members
  | _ => none

/-- A number that is not a double becomes `null`, as JSON has no name for it. -/
def ofFloat (x : Float) : Json := if x.isFinite then .decimal x else .null

/-- A text or, if there is none, `null`. -/
def ofText? : Option String → Json
  | some s => .text s
  | none => .null

end Json

end Periscope
