/-!
# Blanks, fields and lines

Control files are split at blanks. A blank is a character of the Unicode class
`White_Space`; the no-break and ideographic spaces are in it, the zero-width ones
are not. A line ends at a line feed, and one carriage return before the line feed
goes with it.
-/

namespace Periscope

/-- A character of the Unicode class `White_Space`. -/
def isBlank (c : Char) : Bool :=
  let n := c.toNat
  (0x09 ≤ n && n ≤ 0x0D) || n = 0x20 || n = 0x85 || n = 0xA0 || n = 0x1680 ||
    (0x2000 ≤ n && n ≤ 0x200A) || n = 0x2028 || n = 0x2029 || n = 0x202F ||
    n = 0x205F || n = 0x3000

/-- Drops the blanks on both sides. -/
def trimBlanks (s : List Char) : List Char :=
  ((s.dropWhile isBlank).reverse.dropWhile isBlank).reverse

/-- The maximal runs of characters that are not blank, in order. -/
def fieldsOf (s : List Char) : List (List Char) :=
  (s.splitOnP isBlank).filter (· ≠ [])

/-- Removes one carriage return at the end, if there is one. -/
def dropReturn (line : List Char) : List Char :=
  if line.getLast? = some '\r' then line.dropLast else line

/-- Lines of a split text: every piece but the last was ended by a line feed and
loses one carriage return; the last piece is a line only if it is not empty. -/
def terminatedLines : List (List Char) → List (List Char)
  | [] => []
  | [last] => if last = [] then [] else [last]
  | line :: rest => dropReturn line :: terminatedLines rest

/-- The lines of a text. -/
def linesOf (s : List Char) : List (List Char) :=
  terminatedLines (s.splitOnP (· = '\n'))

namespace Text

/-- `trimBlanks` on strings. -/
def trim (s : String) : String := String.ofList (trimBlanks s.toList)

/-- `fieldsOf` on strings. -/
def fields (s : String) : List String := (fieldsOf s.toList).map String.ofList

/-- `linesOf` on strings. -/
def lines (s : String) : List String := (linesOf s.toList).map String.ofList

end Text

/-- The ASCII part of the class: whatever core calls whitespace is a blank. -/
theorem isBlank_of_isWhitespace (c : Char) (h : c.isWhitespace = true) : isBlank c = true := by
  simp only [Char.isWhitespace, Bool.or_eq_true, decide_eq_true_eq] at h
  rcases h with ((rfl | rfl) | rfl) | rfl <;> decide

end Periscope
