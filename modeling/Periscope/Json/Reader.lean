import Periscope.Json.Container
import Periscope.Json.Number
import Periscope.Json.Value

/-!
# Reading JSON values

A kept value has at most `depthLimit` brackets around each part. A value that is only
skipped has no such limit, and its texts and numbers may be ones that could not be kept.
A document is one value with nothing but blanks around it.
-/

namespace Periscope.Json

/-- How many brackets may be open at a time in a kept value. -/
def depthLimit : Nat := 127

/-- What a value starts with. -/
inductive Start where
  | null
  | true
  | false
  | number
  | quote
  | bracket
  | brace
  deriving Repr, DecidableEq

/-- The kind of value that a symbol starts. -/
def start? (s : Symbol) : Option Start :=
  match s with
  | some 'n' => some .null
  | some 't' => some .true
  | some 'f' => some .false
  | some '-' => some .number
  | some '"' => some .quote
  | some '[' => some .bracket
  | some '\x7b' => some .brace
  | s => if (digit? s).isSome then some .number else none

/-- The start of the next value, which is not yet read. -/
def peekStart : Reader Start := do
  match start? (← peekValue) with
  | some start => pure start
  | none => throw .invalid

/-- The JSON value of a number. -/
def ofNumber : Number → Json
  | .whole n => .integer n
  | .real x => .decimal x

/-- Reads a value without brackets. -/
def readScalar : Start → Reader Json
  | .null => do takeWord "null".toList; pure .null
  | .true => do takeWord "true".toList; pure (.bool true)
  | .false => do takeWord "false".toList; pure (.bool false)
  | .number => do return ofNumber (← readNumber)
  | .quote => do advance; return .text (← readQuoted)
  | .bracket => throw .invalid
  | .brace => throw .invalid

/-- Reads a value of which at most `depth` brackets may be open at a time. -/
def readValue : Nat → Reader Json
  | 0 => do readScalar (← peekStart)
  | depth + 1 => do
    match ← peekStart with
    | .bracket => advance; return .array (← readItems (readValue depth))
    | .brace =>
      advance
      let members ← readMembers (fun read => do
        let name ← readQuoted
        readColon
        return Pairs.insert name (← readValue depth) read) []
      return .object members
    | start => readScalar start

/-- Drops a value without brackets. -/
def skipScalar : Start → Reader Unit
  | .null => takeWord "null".toList
  | .true => takeWord "true".toList
  | .false => takeWord "false".toList
  | .number => fun input => do .ok ((), ← skipNumber input)
  | .quote => do advance; skipQuoted
  | .bracket => throw .invalid
  | .brace => throw .invalid

/-- Drops a value of which at most one bracket for each symbol of `bound` is open at a
time. -/
def skipNested : Input → Reader Unit
  | [] => do skipScalar (← peekStart)
  | _ :: bound => do
    match ← peekStart with
    | .bracket => advance; let _ ← readItems (skipNested bound)
    | .brace => advance; readMembers (fun _ => do skipQuoted; readColon; skipNested bound) ()
    | start => skipScalar start

/-- Drops a value. It cannot have more brackets than the input has symbols. -/
def skipValue : Reader Unit := fun input => skipNested input input

/-- Refuses the next value, which is not of the wanted kind. A word, number or text is
read to its end before it is refused. -/
def refuse {α : Type} : Reader α := do
  let _ ← readScalar (← peekStart)
  throw .invalid

end Periscope.Json
