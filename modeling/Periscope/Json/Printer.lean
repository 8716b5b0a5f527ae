import Periscope.Json.Value
import Periscope.Decimal.Shortest

/-!
# Writing JSON

Values are written without blanks, or with one member or item a line and two blanks
for each level. In texts only quotes, backslashes and control characters are escaped.
A double has the shortest digits that read back; with more than sixteen places before the
point, or more than four zeros right behind it, a power of ten with its sign is written.
-/

namespace Periscope.Json

/-- A digit of a hexadecimal escape. -/
def hexDigit (n : Nat) : Char := Char.ofNat (if n < 10 then '0'.toNat + n else 'a'.toNat + (n - 10))

/-- One character of a text as it stands between the quotes. -/
def escape (c : Char) : String :=
  if c = '"' then "\\\""
  else if c = '\\' then "\\\\"
  else if c = '\x08' then "\\b"
  else if c = '\x0c' then "\\f"
  else if c = '\n' then "\\n"
  else if c = '\r' then "\\r"
  else if c = '\t' then "\\t"
  else if c.toNat < 0x20 then
    "\\u00" ++ String.ofList [hexDigit (c.toNat / 16), hexDigit (c.toNat % 16)]
  else String.singleton c

/-- Whether a character stands for itself between the quotes. -/
def isPlain (c : Char) : Bool := c ≠ '"' && c ≠ '\\' && 0x20 ≤ c.toNat

/-- Appends a character of a text. -/
def writeChar (out : String) (c : Char) : String :=
  if isPlain c then out.push c else out ++ escape c

/-- Appends a text between quotes. -/
def writeText (out : String) (s : String) : String :=
  (s.foldl writeChar (out.push '"')).push '"'

/-- The text of a power of ten, which always has its sign. -/
def powerText (exponent : Int) : List Char :=
  'e' :: (if exponent < 0 then '-' else '+') :: Nat.toDigits 10 exponent.natAbs

/-- The text of a decimal with the given digits: positional if the point falls close to
them, otherwise with one digit before the point and a power of ten. -/
def decimalText (digits : List Char) (exponent : Int) : List Char :=
  let point := Int.ofNat digits.length + exponent
  if 0 ≤ exponent ∧ point ≤ 16 then
    digits ++ List.replicate exponent.toNat '0' ++ ['.', '0']
  else if 0 < point ∧ point ≤ 16 then
    digits.take point.toNat ++ '.' :: digits.drop point.toNat
  else if -5 < point ∧ point ≤ 0 then
    ['0', '.'] ++ List.replicate (-point).toNat '0' ++ digits
  else
    match digits with
    | [] => powerText (point - 1)
    | [digit] => digit :: powerText (point - 1)
    | digit :: rest => digit :: '.' :: rest ++ powerText (point - 1)

/-- The text of a double. -/
def floatText (x : Float) : String :=
  match DoubleValue.of x with
  | .finite negative magnitude =>
    let shortest := Shortest.decimal magnitude
    (if negative then "-" else "") ++
      String.ofList (decimalText (Nat.toDigits 10 shortest.digits) shortest.exponent)
  | _ => "null"

mutual

/-- Appends a value without blanks. -/
def write (out : String) : Json → String
  | .null => out ++ "null"
  | .bool true => out ++ "true"
  | .bool false => out ++ "false"
  | .integer n => out ++ toString n
  | .decimal x => out ++ floatText x
  | .text s => writeText out s
  | .array [] => out ++ "[]"
  | .array (item :: rest) => (writeItems (write (out.push '[') item) rest).push ']'
  | .object [] => out ++ "\x7b\x7d"
  | .object ((name, value) :: rest) =>
    (writeMembers (write ((writeText (out.push '\x7b') name).push ':') value) rest).push '\x7d'

/-- Appends the items after the first. -/
def writeItems (out : String) : List Json → String
  | [] => out
  | item :: rest => writeItems (write (out.push ',') item) rest

/-- Appends the members after the first. -/
def writeMembers (out : String) : List (String × Json) → String
  | [] => out
  | (name, value) :: rest =>
    writeMembers (write ((writeText (out.push ',') name).push ':') value) rest

end

/-- A value as a text without blanks. -/
def compact (value : Json) : String := value.write ""

/-- The start of a line at a level. -/
def indent (level : Nat) : String := "\n" ++ String.ofList (List.replicate (2 * level) ' ')

mutual

/-- Appends a value that starts at a level, one member or item a line. -/
def writePretty (level : Nat) (out : String) : Json → String
  | .array [] => out ++ "[]"
  | .array (item :: rest) =>
    let first := writePretty (level + 1) (out ++ "[" ++ indent (level + 1)) item
    writePrettyItems level first rest ++ indent level ++ "]"
  | .object [] => out ++ "\x7b\x7d"
  | .object ((name, value) :: rest) =>
    let first := writePretty (level + 1)
      (writeText (out ++ "\x7b" ++ indent (level + 1)) name ++ ": ") value
    writePrettyMembers level first rest ++ indent level ++ "\x7d"
  | value => value.write out

/-- Appends the items after the first, each on its line. -/
def writePrettyItems (level : Nat) (out : String) : List Json → String
  | [] => out
  | item :: rest =>
    writePrettyItems level (writePretty (level + 1) (out ++ "," ++ indent (level + 1)) item) rest

/-- Appends the members after the first, each on its line. -/
def writePrettyMembers (level : Nat) (out : String) : List (String × Json) → String
  | [] => out
  | (name, value) :: rest =>
    writePrettyMembers level
      (writePretty (level + 1)
        (writeText (out ++ "," ++ indent (level + 1)) name ++ ": ") value) rest

end

/-- A value as a text with one member or item a line. -/
def pretty (value : Json) : String := value.writePretty 0 ""

end Periscope.Json
