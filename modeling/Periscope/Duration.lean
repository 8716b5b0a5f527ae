/-!
# Durations and instants

A duration is a whole number of nanoseconds that fits 64 bits of seconds. Sums that
leave this range are reported and never wrap. An instant is a reading of a clock that
counts from the start of the machine; its seconds fit 63 bits.
-/

namespace Periscope

/-- Nanoseconds in a second. -/
def nanosPerSecond : Nat := 1000000000

/-- The least number of nanoseconds that is too long for a duration. -/
def durationLimit : Nat := UInt64.size * nanosPerSecond

/-- A length of time. -/
structure Duration where
  /-- The length in nanoseconds. -/
  nanos : Nat
  /-- The whole seconds fit 64 bits. -/
  nanos_lt : nanos < durationLimit
  deriving DecidableEq

namespace Duration

/-- The duration of the given number of nanoseconds, if it is in range. -/
def ofNanos? (nanos : Nat) : Option Duration :=
  if h : nanos < durationLimit then some ⟨nanos, h⟩ else none

/-- No time at all. -/
def zero : Duration := ⟨0, by decide⟩

instance : Inhabited Duration := ⟨zero⟩

/-- A whole number of seconds. -/
def ofSeconds (seconds : UInt64) : Duration :=
  ⟨seconds.toNat * nanosPerSecond, by
    have := seconds.toNat_lt
    simp only [durationLimit, nanosPerSecond, UInt64.size]
    omega⟩

/-- A whole number of milliseconds. -/
def ofMillis (millis : UInt64) : Duration :=
  ⟨millis.toNat * 1000000, by
    have := millis.toNat_lt
    simp only [durationLimit, nanosPerSecond, UInt64.size]
    omega⟩

/-- The whole seconds. -/
def seconds (d : Duration) : Nat := d.nanos / nanosPerSecond

/-- The nanoseconds beyond the whole seconds. -/
def subsecond (d : Duration) : Nat := d.nanos % nanosPerSecond

/-- The sum, unless it is out of range. -/
def add? (a b : Duration) : Option Duration := ofNanos? (a.nanos + b.nanos)

/-- Digits of a fraction of `places` places, without zeros at the end. -/
def fractionDigits (places fraction : Nat) : List Char :=
  let digits := (Nat.toDigits 10 fraction)
  ((List.replicate (places - digits.length) '0' ++ digits).reverse.dropWhile (· = '0')).reverse

/-- A number of units with a fraction of `places` places and the name of the unit. -/
def inUnits (whole places fraction : Nat) (unit : String) : String :=
  match fractionDigits places fraction with
  | [] => toString whole ++ unit
  | digits => toString whole ++ "." ++ String.ofList digits ++ unit

/-- A duration in the largest of the units s, ms, µs and ns that it reaches, with all
the places it needs. -/
def text (d : Duration) : String :=
  if nanosPerSecond ≤ d.nanos then inUnits d.seconds 9 d.subsecond "s"
  else if 1000000 ≤ d.nanos then inUnits (d.nanos / 1000000) 6 (d.nanos % 1000000) "ms"
  else if 1000 ≤ d.nanos then inUnits (d.nanos / 1000) 3 (d.nanos % 1000) "µs"
  else toString d.nanos ++ "ns"

end Duration

/-- A reading of the clock, in nanoseconds since the start of the machine. -/
structure Instant where
  /-- The nanoseconds since the start. -/
  nanos : Nat
  deriving DecidableEq, Inhabited

namespace Instant

/-- The least reading that no clock can show. -/
def limit : Nat := 9223372036854775808 * nanosPerSecond

/-- The reading after the given time, unless no clock can show it. -/
def add? (start : Instant) (d : Duration) : Option Instant :=
  if start.nanos + d.nanos < limit then some ⟨start.nanos + d.nanos⟩ else none

/-- The time from an earlier reading to a later one, and none if the clock went back. -/
def since (finish start : Instant) : Duration :=
  (Duration.ofNanos? (finish.nanos - start.nanos)).getD .zero

end Instant

end Periscope
