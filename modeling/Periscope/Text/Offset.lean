/-!
# Offsets in a text

An offset counts the bytes in front of a place in a text. A text is cut only between two
characters: an offset inside of one or beyond the end leads nowhere.
-/

namespace Periscope

/-- The size of a text in bytes. -/
def byteSize : List Char → Nat
  | [] => 0
  | c :: rest => c.utf8Size + byteSize rest

/-- The offset of the first place that has a character. -/
def firstOffset? (c : Char) : List Char → Option Nat
  | [] => none
  | d :: rest => if d = c then some 0 else (firstOffset? c rest).map (d.utf8Size + ·)

/-- The offset of the last place that has a character. -/
def lastOffset? (c : Char) : List Char → Option Nat
  | [] => none
  | d :: rest =>
    match lastOffset? c rest with
    | some offset => some (d.utf8Size + offset)
    | none => if d = c then some 0 else none

/-- Cuts a text at an offset. -/
def splitAtOffset? : Nat → List Char → Option (List Char × List Char)
  | 0, s => some ([], s)
  | _ + 1, [] => none
  | offset + 1, c :: rest =>
    if c.utf8Size ≤ offset + 1 then
      (splitAtOffset? (offset + 1 - c.utf8Size) rest).map fun (front, back) => (c :: front, back)
    else none

/-- What stands in a text from an offset on. -/
def sliceFrom? (start : Nat) (s : List Char) : Option (List Char) :=
  (splitAtOffset? start s).map Prod.snd

/-- What stands in a text between two offsets, the first of which must not be the greater. -/
def slice? (start stop : Nat) (s : List Char) : Option (List Char) :=
  if start ≤ stop then do
    let back ← sliceFrom? start s
    let (middle, _) ← splitAtOffset? (stop - start) back
    return middle
  else none

end Periscope
