import Periscope.Json.Reader

/-!
# Decoding typed values

A decoder reads a value of a certain shape straight from the text, with the number of
brackets that may still be opened. A record is an object with its members in any order,
where unknown members are skipped and none may occur twice, or an array of its fields in
order. An enumeration is a name or an object whose one member has the name.
-/

namespace Periscope

/-- Why a document could not be decoded. The column is that of the last symbol read. -/
inductive JsonError where
  /-- The text ended too early. -/
  | ended
  /-- The text is not what was wanted. -/
  | invalid
  /-- There is a `null` where a number was wanted. -/
  | nullForNumber (column : Nat)
  deriving Repr, DecidableEq

/-- The wording, as far as it is shown. -/
def JsonError.message : JsonError → String
  | .ended => "json eof"
  | .invalid => "json invalid"
  | .nullForNumber column =>
    "invalid type: null, expected f64 at line 1 column " ++ toString column

namespace Json

/-- Reads a value; the argument is the number of brackets that may be opened. -/
abbrev Decoder (α : Type) := Nat → Reader α

namespace Decoder

/-- Opens a bracket or brace, if one more may be open, and reads on behind it. -/
def opened {α : Type} (read : Nat → Reader α) : Nat → Reader α
  | 0 => throw .invalid
  | depth + 1 => do advance; read depth

/-- Any value, kept as it is. -/
def value : Decoder Json := readValue

/-- `null`. -/
def unit : Decoder Unit := fun _ => do
  match ← peekStart with
  | .null => takeWord "null".toList
  | _ => refuse

/-- A truth value. -/
def bool : Decoder Bool := fun _ => do
  match ← peekStart with
  | .true => takeWord "true".toList; pure true
  | .false => takeWord "false".toList; pure false
  | _ => refuse

/-- A text. -/
def text : Decoder String := fun _ => do
  match ← peekStart with
  | .quote => advance; readQuoted
  | _ => refuse

/-- An integer from `least` to `greatest`, written without point and power of ten. -/
def integer (least greatest : Int) : Decoder Int := fun _ => do
  match ← peekStart with
  | .number =>
    match ← readNumber with
    | .whole n => if least ≤ n ∧ n ≤ greatest then pure n else throw .invalid
    | .real _ => throw .invalid
  | _ => refuse

/-- A 64-bit word. -/
def word : Decoder UInt64 := fun depth => do
  return UInt64.ofNat (← integer 0 18446744073709551615 depth).toNat

/-- A signed 32-bit number. -/
def int32 : Decoder Int32 := fun depth => do
  return Int32.ofInt (← integer (-2147483648) 2147483647 depth)

/-- A number of any kind, as a double. -/
def double : Decoder Float := fun _ => do
  match ← peekStart with
  | .number => return (← readNumber).toFloat
  | .null =>
    takeWord "null".toList
    throw (.nullNumber (← get).length)
  | _ => refuse

variable {α β δ : Type}

/-- `null`, or a value of the given shape. -/
def option (decoder : Decoder α) : Decoder (Option α) := fun depth => do
  match ← peek with
  | some (some 'n') => takeWord "null".toList; pure none
  | _ => return some (← decoder depth)

/-- An array of values of one shape. -/
def list (item : Decoder α) : Decoder (List α) := fun depth => do
  match ← peekStart with
  | .bracket => opened (fun depth => readItems (item depth)) depth
  | _ => refuse

/-- A field of a record that is put together in a draft. -/
structure Field (δ : Type) where
  /-- The name of the member. -/
  name : String
  /-- Whether a draft has the field already. -/
  filled : δ → Bool
  /-- Reads the field into a draft. -/
  read : Nat → δ → Reader δ

/-- The field that a decoder reads; `get` tells it from a draft and `set` puts it there. -/
def Field.of (name : String) (decoder : Decoder β) (get : δ → Option β) (set : β → δ → δ) :
    Field δ :=
  { name, filled := fun draft => (get draft).isSome
    read := fun depth draft => do return set (← decoder depth) draft }

/-- Reads a member of a record. -/
def readMember (fields : List (Field δ)) (depth : Nat) (draft : δ) : Reader δ := do
  let name ← readQuoted
  match fields.find? (·.name = name) with
  | some field =>
    if field.filled draft then throw .invalid
    readColon
    field.read depth draft
  | none =>
    readColon
    skipValue
    pure draft

/-- Reads the fields of a record from the items of an array. If `short` holds, the array
may end before the last field. -/
def readFields (short : Bool) (depth : Nat) : List (Field δ) → Bool → δ → Reader δ
  | [], _, draft => do
    if (← peekValue) = some ']' then advance; pure draft else throw .invalid
  | field :: fields, first, draft => do
    if ← nextPart ']' first then
      readFields short depth fields false (← field.read depth draft)
    else if short then
      advance
      pure draft
    else throw .invalid

/-- A record. `finish` makes it from the draft unless a field is missing. -/
def record (fields : List (Field δ)) (empty : δ) (finish : δ → Option α) (short : Bool) :
    Decoder α := fun depth => do
  let draft ← match ← peekStart with
    | .brace => opened (fun depth => readMembers (readMember fields depth) empty) depth
    | .bracket => opened (fun depth => readFields short depth fields true empty) depth
    | _ => refuse
  match finish draft with
  | some value => pure value
  | none => throw .invalid

/-- Reads the closing brace of an enumeration's object. -/
def closeVariant : Reader Unit := do
  if (← peekValue) = some '\x7d' then advance else throw .invalid

/-- One of several names; in the form of an object the member is `null`. -/
def enumeration (parse? : String → Option α) : Decoder α := fun depth => do
  let named (name : String) : Reader α :=
    match parse? name with
    | some value => pure value
    | none => throw .invalid
  match ← peekValue with
  | some '"' => advance; named (← readQuoted)
  | some '\x7b' =>
    opened (fun depth => do
      openName
      let value ← named (← readQuoted)
      readColon
      unit depth
      closeVariant
      pure value) depth
  | _ => throw .invalid

/-- An object whose one member's name chooses how its value is read. A name alone is
refused. -/
def variant (payload? : String → Option (Decoder α)) : Decoder α := fun depth => do
  match ← peekValue with
  | some '"' => advance; let _ ← readQuoted; throw .invalid
  | some '\x7b' =>
    opened (fun depth => do
      openName
      match payload? (← readQuoted) with
      | none => throw .invalid
      | some payload =>
        readColon
        let value ← payload depth
        closeVariant
        pure value) depth
  | _ => throw .invalid

end Decoder

/-- Decodes a whole document. -/
def decode {α : Type} (decoder : Decoder α) (input : Input) : Except JsonError α :=
  match decoder depthLimit input with
  | .error .ended => .error .ended
  | .error .invalid => .error .invalid
  | .error (.nullNumber left) => .error (.nullForNumber (input.length - left))
  | .ok (value, rest) => if skipSpaces rest = [] then .ok value else .error .invalid

/-- Decodes a text. -/
def decodeText {α : Type} (decoder : Decoder α) (s : String) : Except JsonError α :=
  decode decoder (symbolsOf s)

/-- Decodes bytes. -/
def decodeBytes {α : Type} (decoder : Decoder α) (bytes : ByteArray) : Except JsonError α :=
  decode decoder (symbolsOfBytes bytes)

end Json

end Periscope
