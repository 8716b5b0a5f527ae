import Periscope.Json.Quoted

/-!
# Reading items and members

Arrays and objects share one grammar whatever is read inside them: parts separated by
commas, none after the last part, and blanks anywhere in between. The readers here take
the reader of one part as an argument and end behind the closing bracket.
-/

namespace Periscope.Json

/-- Moves to the next part of a container, if there is one. `first` holds before the
first part, where no comma is read. -/
def nextPart (close : Char) (first : Bool) : Reader Bool := do
  match ← peek with
  | none => throw .ended
  | some s =>
    if s = some close then pure false
    else if first then pure true
    else if s = some ',' then
      advance
      if (← peekValue) = some close then throw .invalid
      pure true
    else throw .invalid

/-- Reads the items of an array and its closing bracket, at most one for each symbol of
`bound`. -/
def readItemsFrom {α : Type} (item : Reader α) : Input → Bool → Reader (List α)
  | [], _ => throw .invalid
  | _ :: bound, first => do
    if ← nextPart ']' first then
      let value ← item
      let rest ← readItemsFrom item bound false
      pure (value :: rest)
    else
      advance
      pure []

/-- Reads an array behind its opening bracket. It has fewer items than the input has
symbols. -/
def readItems {α : Type} (item : Reader α) : Reader (List α) := fun input =>
  readItemsFrom item (none :: input) true input

/-- Reads an array behind its first item. -/
def readMoreItems {α : Type} (item : Reader α) : Reader (List α) := fun input =>
  readItemsFrom item (none :: input) false input

/-- Reads the opening quote of a member's name. -/
def openName : Reader Unit := do
  if (← peekValue) = some '"' then advance else throw .invalid

/-- Reads the colon behind a member's name. -/
def readColon : Reader Unit := do
  if (← peekValue) = some ':' then advance else throw .invalid

/-- Reads the members of an object and its closing brace, at most one for each symbol of
`bound`. The reader of a member starts behind the opening quote of the name and adds to
what was read before. -/
def readMembersFrom {σ : Type} (member : σ → Reader σ) : Input → Bool → σ → Reader σ
  | [], _, _ => throw .invalid
  | _ :: bound, first, read => do
    if ← nextPart '\x7d' first then
      openName
      let read ← member read
      readMembersFrom member bound false read
    else
      advance
      pure read

/-- Reads an object behind its opening brace. -/
def readMembers {σ : Type} (member : σ → Reader σ) (start : σ) : Reader σ := fun input =>
  readMembersFrom member (none :: input) true start input

end Periscope.Json
