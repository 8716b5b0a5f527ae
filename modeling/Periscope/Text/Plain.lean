/-!
# Texts without control sequences

A text may hold sequences that steer a terminal. An escape character starts one, and what
follows it decides where the sequence ends. A stream that is no terminal gets the text
without these sequences and without control characters, except for the blanks among them.
A text that holds neither is passed on as it is.
-/

namespace Periscope

/-- Where a reader stands that looks for control sequences. -/
inductive SequencePart where
  /-- Outside of them. -/
  | outside
  /-- Right behind an escape character. -/
  | escape
  /-- In a short sequence, before the letter that ends it. -/
  | short
  /-- In a sequence with parameters, before the letter that ends it. -/
  | parameters
  /-- In a sequence that holds a text, which may also be ended by a bell. -/
  | text (bell : Bool)
  deriving Repr, DecidableEq

namespace SequencePart

/-- The blanks among the control characters. -/
def isControlBlank (c : Char) : Bool := c = '\t' || c = '\n' || c = '\x0c' || c = '\r'

/-- Whether a character outside of sequences is passed on. -/
def isShown (c : Char) : Bool := isControlBlank c || (0x20 ≤ c.toNat && c ≠ '\x7f')

/-- What an escape character and the character behind it start. -/
def start (c : Char) : SequencePart :=
  if c = '[' then .parameters
  else if c = ']' then .text true
  else if c = 'P' ∨ c = 'X' ∨ c = '^' ∨ c = '_' then .text false
  else if 0x20 ≤ c.toNat ∧ c.toNat ≤ 0x2F then .short
  else if 0x30 ≤ c.toNat ∧ c.toNat ≤ 0x7E then .outside
  else .escape

/-- The part behind a character. An escape character starts a sequence anywhere, cancelling
ends any, and a blank ends those that hold no text. -/
def next (part : SequencePart) (c : Char) : SequencePart :=
  if c = '\x1b' then .escape
  else if c = '\x18' ∨ c = '\x1a' then .outside
  else
    match part with
    | .outside => .outside
    | .escape => if isControlBlank c then .outside else start c
    | .short =>
      if isControlBlank c ∨ (0x30 ≤ c.toNat ∧ c.toNat ≤ 0x7E) then .outside else .short
    | .parameters =>
      if isControlBlank c ∨ (0x40 ≤ c.toNat ∧ c.toNat ≤ 0x7E) then .outside else .parameters
    | .text bell => if bell ∧ c = '\x07' then .outside else .text bell

/-- Whether a character is passed on. -/
def shows (part : SequencePart) (c : Char) : Bool :=
  match part with
  | .outside => isShown c
  | .text _ => false
  | _ => isControlBlank c

end SequencePart

/-- The characters that are passed on, from a part on. -/
def shownFrom : SequencePart → List Char → List Char
  | _, [] => []
  | part, c :: rest =>
    if part.shows c then c :: shownFrom (part.next c) rest else shownFrom (part.next c) rest

/-- A text without control sequences and control characters. -/
def Text.plain (s : String) : String := String.ofList (shownFrom .outside s.toList)

/-- Outside of sequences only an escape character, which is not passed on, starts one. -/
theorem SequencePart.next_outside {c : Char} (h : isShown c = true) :
    next .outside c = .outside := by
  have hne : c ≠ '\x1b' := by rintro rfl; exact absurd h (by decide)
  simp [next, hne]

/-- Characters that are all passed on stay as they are. -/
theorem shownFrom_eq_self {s : List Char} (h : ∀ c ∈ s, SequencePart.isShown c = true) :
    shownFrom .outside s = s := by
  induction s with
  | nil => rfl
  | cons c rest ih =>
    have hc := h c (by simp)
    rw [shownFrom, SequencePart.next_outside hc, ih fun d hd => h d (by simp [hd])]
    simp [SequencePart.shows, hc]

end Periscope
