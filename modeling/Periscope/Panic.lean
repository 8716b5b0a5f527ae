/-!
# Stops in the middle of a call

Sums and products of counters, durations and instants are checked, and leaving the range
stops the call that asked for them. What was changed before stays changed. A host view
that cannot be won back ends the whole program.
-/

namespace Periscope

/-- Why a call stopped in the middle. -/
inductive Panic where
  /-- A sum of counters left its range. -/
  | sumOverflow
  /-- A product of counters left its range. -/
  | productOverflow
  /-- A sum of durations left its range. -/
  | durationOverflow
  /-- No clock can show the instant. -/
  | instantOverflow
  /-- A preload hook stopped. -/
  | hook (name : String)
  /-- A preload hook stopped earlier. -/
  | poisoned
  deriving Repr, DecidableEq

/-- The wording of a stop. -/
def Panic.message : Panic → String
  | .sumOverflow => "attempt to add with overflow"
  | .productOverflow => "attempt to multiply with overflow"
  | .durationOverflow => "overflow when adding durations"
  | .instantOverflow => "overflow when adding duration to instant"
  | .hook name => "preload hook " ++ name ++ " stopped"
  | .poisoned => "preload hooks stopped earlier"

/-- How a call ends without returning: it stops, or it takes the program with it. -/
inductive Halt where
  /-- The call stopped. -/
  | panicked (cause : Panic)
  /-- The program ended. -/
  | aborted
  deriving Repr, DecidableEq

/-- The sum of two words that must be a word. -/
def addWords (a b : UInt64) : Except Panic UInt64 :=
  if a.toNat + b.toNat < UInt64.size then .ok (a + b) else .error .sumOverflow

/-- The product of two words that must be a word. -/
def multiplyWords (a b : UInt64) : Except Panic UInt64 :=
  if a.toNat * b.toNat < UInt64.size then .ok (a * b) else .error .productOverflow

/-- The sum of words, added from left to right, each sum of which must be a word. -/
def sumWords (words : List UInt64) : Except Panic UInt64 :=
  words.foldlM addWords 0

/-- A difference that stops at zero. -/
def subtractWords (a b : UInt64) : UInt64 := if b ≤ a then a - b else 0

/-- The number that such a difference stands for. -/
theorem toNat_subtractWords (a b : UInt64) : (subtractWords a b).toNat = a.toNat - b.toNat := by
  rw [subtractWords]
  by_cases h : b ≤ a
  · rw [if_pos h, UInt64.toNat_sub_of_le a b h]
  · have hlt : a.toNat < b.toNat := Nat.lt_of_not_le fun hle => h (UInt64.le_iff_toNat_le.mpr hle)
    rw [if_neg h, UInt64.toNat_zero]
    omega

/-- A sum that stops at the greatest word. -/
def addSaturating (a b : UInt64) : UInt64 :=
  if a.toNat + b.toNat < UInt64.size then a + b else UInt64.ofNat (UInt64.size - 1)

/-- A product that stops at the greatest word. -/
def multiplySaturating (a b : UInt64) : UInt64 :=
  if a.toNat * b.toNat < UInt64.size then a * b else UInt64.ofNat (UInt64.size - 1)

/-- The number that such a product stands for. -/
theorem toNat_multiplySaturating (a b : UInt64) :
    (multiplySaturating a b).toNat = min (a.toNat * b.toNat) (UInt64.size - 1) := by
  rw [multiplySaturating]
  split
  · next h =>
    rw [UInt64.toNat_mul, Nat.mod_eq_of_lt h, Nat.min_eq_left (Nat.le_sub_one_of_lt h)]
  · next h =>
    rw [Nat.min_eq_right (by omega)]
    rfl

end Periscope
