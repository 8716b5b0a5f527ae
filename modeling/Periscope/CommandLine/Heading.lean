import Std.Time.DateTime.PlainDateTime

/-!
# The heading of a round

Each round has an identifier and the time of its start. The identifier is made of sixteen
random bytes, six bits of which are fixed to tell that they are random. The time is
written in the civil calendar of the zero meridian.
-/

namespace Periscope.Heading

/-- A byte as two hexadecimal digits. -/
def byteText (b : UInt8) : String :=
  String.ofList [Nat.digitChar (b.toNat / 16), Nat.digitChar (b.toNat % 16)]

/-- Fixes the bits that tell how an identifier was made: its version in the seventh byte
and its variant in the ninth. -/
def markRandom (bytes : List UInt8) : List UInt8 :=
  (bytes.modify 6 fun b => b &&& 0x0F ||| 0x40).modify 8 fun b => b &&& 0x3F ||| 0x80

/-- The identifier made of random bytes, in groups of four, two, two, two and the rest. -/
def identifier (random : List UInt8) : String :=
  let bytes := (markRandom random).map byteText
  let group (start count : Nat) : String := String.join ((bytes.drop start).take count)
  String.intercalate "-" [group 0 4, group 4 2, group 6 2, group 8 2, group 10 6]

/-- A number with zeros in front up to a width. -/
def padded (width n : Nat) : String :=
  let digits := Nat.toDigits 10 n
  String.ofList (List.replicate (width - digits.length) '0' ++ digits)

/-- A time to the nanosecond. -/
def timeText (t : Std.Time.PlainDateTime) : String :=
  padded 4 t.date.year.toInt.toNat ++ "-" ++ padded 2 t.date.month.toNat ++ "-" ++
    padded 2 t.date.day.toNat ++ "T" ++ padded 2 t.time.hour.toNat ++ ":" ++
    padded 2 t.time.minute.toNat ++ ":" ++ padded 2 t.time.second.toNat ++ "." ++
    padded 9 t.time.nanosecond.toNat ++ "Z"

end Periscope.Heading
