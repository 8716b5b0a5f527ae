import Periscope.Json.Printer
import Periscope.Json.Quoted

/-!
# How texts may be written

A character stands for itself between the quotes unless it is a quote, a backslash or a
control character. Any character may be escaped: some by a letter, those of the basic plane
by one unit and all others by a pair of units. Whichever way is chosen for each character, the
reader makes the same text of it. A text that is only skipped may also hold halves of pairs.
-/

namespace Periscope.Json

/-- The hexadecimal digits and their values. -/
def hexDigits : List (Char × Nat) :=
  [('0', 0), ('1', 1), ('2', 2), ('3', 3), ('4', 4), ('5', 5), ('6', 6), ('7', 7), ('8', 8),
   ('9', 9), ('a', 10), ('b', 11), ('c', 12), ('d', 13), ('e', 14), ('f', 15), ('A', 10),
   ('B', 11), ('C', 12), ('D', 13), ('E', 14), ('F', 15)]

/-- The letters that may follow a backslash and what they stand for. -/
def escapeLetters : List (Char × Char) :=
  [('"', '"'), ('\\', '\\'), ('/', '/'), ('b', '\x08'), ('f', '\x0c'), ('n', '\n'), ('r', '\r'),
   ('t', '\t')]

/-- Four digits and the unit they spell. -/
inductive SpellsUnit : List Char → Nat → Prop where
  /-- The first digit counts most. -/
  | digits {a b c d : Char} {i j k l : Nat} (ha : (a, i) ∈ hexDigits) (hb : (b, j) ∈ hexDigits)
      (hc : (c, k) ∈ hexDigits) (hd : (d, l) ∈ hexDigits) :
      SpellsUnit [a, b, c, d] (0x1000 * i + 0x100 * j + 0x10 * k + l)

/-- The ways to write a character. -/
inductive Spells : List Char → Char → Prop where
  /-- The character itself. -/
  | plain {c : Char} (hc : isPlain c = true) : Spells [c] c
  /-- An escape of one letter. -/
  | letter {letter c : Char} (hc : (letter, c) ∈ escapeLetters) : Spells ['\\', letter] c
  /-- One unit. -/
  | unit {digits : List Char} {c : Char} (hunit : SpellsUnit digits c.toNat) :
      Spells ('\\' :: 'u' :: digits) c
  /-- A pair of units. -/
  | pair {leading trailing : List Char} {c : Char} (hc : 0x10000 ≤ c.toNat)
      (hleading : SpellsUnit leading (0xD800 + (c.toNat - 0x10000) / 0x400))
      (htrailing : SpellsUnit trailing (0xDC00 + (c.toNat - 0x10000) % 0x400)) :
      Spells ('\\' :: 'u' :: (leading ++ '\\' :: 'u' :: trailing)) c

/-- The ways to write a text between its quotes. -/
inductive SpellsText : List Char → List Char → Prop where
  /-- The empty text. -/
  | nil : SpellsText [] []
  /-- Each character is written in a way of its own. -/
  | cons {spelling body : List Char} {c : Char} {cs : List Char} (hc : Spells spelling c)
      (hcs : SpellsText body cs) : SpellsText (spelling ++ body) (c :: cs)

/-- A piece of a text that need not be Unicode. -/
inductive IsPiece : List Char → Prop where
  /-- A character. -/
  | plain {c : Char} (hc : isPlain c = true) : IsPiece [c]
  /-- An escape of one letter. -/
  | letter {letter c : Char} (hc : (letter, c) ∈ escapeLetters) : IsPiece ['\\', letter]
  /-- A unit, which may be half of a pair. -/
  | unit {digits : List Char} {n : Nat} (hunit : SpellsUnit digits n) :
      IsPiece ('\\' :: 'u' :: digits)

/-- What may stand between quotes. -/
inductive IsText : List Char → Prop where
  /-- Nothing. -/
  | nil : IsText []
  /-- One more piece. -/
  | cons {piece body : List Char} (hpiece : IsPiece piece) (hbody : IsText body) :
      IsText (piece ++ body)

private theorem hexValue?_of_mem :
    ∀ digit ∈ hexDigits, hexValue? (some digit.1) = some digit.2 := by decide

private theorem escapedChar?_of_mem :
    ∀ pair ∈ escapeLetters, escapedChar? (some pair.1) = some pair.2 ∧ pair.1 ≠ 'u' := by decide

/-- The digits of a unit are read. -/
private theorem readUnit_spelled {digits : List Char} {n : Nat} (h : SpellsUnit digits n)
    (rest : Input) : readUnit (digits.map some ++ rest) = .ok (n, rest) := by
  cases h with
  | @digits a b c d i j k l ha hb hc hd =>
    have hbytes : ¬inputBytes [some a, some b, some c, some d] < 4 := by
      have := a.utf8Size_pos
      have := b.utf8Size_pos
      have := c.utf8Size_pos
      have := d.utf8Size_pos
      simp only [inputBytes, symbolBytes, List.foldl_cons, List.foldl_nil]
      omega
    have hvalue : ((i * 16 + j) * 16 + k) * 16 + l = 0x1000 * i + 0x100 * j + 0x10 * k + l := by
      omega
    simp only [readUnit, List.map_cons, List.map_nil, List.cons_append, List.nil_append,
      List.take_succ_cons, List.take_zero, if_neg hbytes, hexValue?_of_mem _ ha,
      hexValue?_of_mem _ hb, hexValue?_of_mem _ hc, hexValue?_of_mem _ hd, hvalue]

/-- A plain character is one piece, however units are read. -/
private theorem readPiece_plain (unit : Input → Except Fault (Piece × Input)) {c : Char}
    (hc : isPlain c = true) (rest : Input) :
    readPiece unit (some c :: rest) = .ok (.char c, rest) := by
  have hplain : c ≠ '"' ∧ c ≠ '\\' ∧ 0x20 ≤ c.toNat := by simpa [isPlain, and_assoc] using hc
  have hsmall : ¬c.toNat < 0x20 := by omega
  unfold readPiece
  split <;> simp_all

/-- An escape of one letter is one piece, however units are read. -/
private theorem readPiece_letter (unit : Input → Except Fault (Piece × Input)) {letter c : Char}
    (hc : (letter, c) ∈ escapeLetters) (rest : Input) :
    readPiece unit (some '\\' :: some letter :: rest) = .ok (.char c, rest) := by
  obtain ⟨hescaped, hunit⟩ := escapedChar?_of_mem _ hc
  rw [readPiece, hescaped]
  simpa using hunit

/-- The value of a character leaves out the halves of pairs. -/
private theorem char_valid (c : Char) :
    c.toNat < 0xD800 ∨ (0xDFFF < c.toNat ∧ c.toNat < 0x110000) := c.valid

/-- A character of the basic plane is read from its unit. -/
private theorem readEscapedUnit_unit {digits : List Char} {c : Char}
    (h : SpellsUnit digits c.toNat) (rest : Input) :
    readEscapedUnit (digits.map some ++ rest) = .ok (.char c, rest) := by
  have hvalid := char_valid c
  have htrailing : isTrailing c.toNat = false := by simp [isTrailing]; omega
  have hleading : isLeading c.toNat = false := by simp [isLeading]; omega
  simp [readEscapedUnit, readUnit_spelled h, bind, Except.bind, htrailing, hleading]

/-- A character outside the basic plane is read from its pair. -/
private theorem readEscapedUnit_pair {leading trailing : List Char} {c : Char}
    (hc : 0x10000 ≤ c.toNat)
    (hleading : SpellsUnit leading (0xD800 + (c.toNat - 0x10000) / 0x400))
    (htrailing : SpellsUnit trailing (0xDC00 + (c.toNat - 0x10000) % 0x400)) (rest : Input) :
    readEscapedUnit (leading.map some ++ some '\\' :: some 'u' :: (trailing.map some ++ rest)) =
      .ok (.char c, rest) := by
  have hvalid := char_valid c
  have hfirst : isTrailing (0xD800 + (c.toNat - 0x10000) / 0x400) = false := by
    simp [isTrailing]; omega
  have hpair : isLeading (0xD800 + (c.toNat - 0x10000) / 0x400) = true := by
    simp [isLeading]; omega
  have hsecond : isTrailing (0xDC00 + (c.toNat - 0x10000) % 0x400) = true := by
    simp [isTrailing]; omega
  have hchar : pairedChar (0xD800 + (c.toNat - 0x10000) / 0x400)
      (0xDC00 + (c.toNat - 0x10000) % 0x400) = c := by
    have hvalue : 0x10000 + (0xD800 + (c.toNat - 0x10000) / 0x400 - 0xD800) * 0x400 +
        (0xDC00 + (c.toNat - 0x10000) % 0x400 - 0xDC00) = c.toNat := by omega
    rw [pairedChar, hvalue, Char.ofNat_toNat]
  simp [readEscapedUnit, readUnit_spelled hleading, readUnit_spelled htrailing, bind, Except.bind,
    hfirst, hpair, hsecond, hchar]

/-- A character is one piece, whichever way it is written. -/
theorem readPiece_spelled {spelling : List Char} {c : Char} (h : Spells spelling c)
    (rest : Input) :
    readPiece readEscapedUnit (spelling.map some ++ rest) = .ok (.char c, rest) := by
  cases h with
  | plain hc => exact readPiece_plain _ hc rest
  | letter hc => exact readPiece_letter _ hc rest
  | unit hunit => exact readEscapedUnit_unit hunit rest
  | pair hc hleading htrailing =>
    have hread := readEscapedUnit_pair hc hleading htrailing rest
    simpa [readPiece] using hread

/-- A written text is read onto what was read before it. -/
private theorem readPieces_spelled {body cs : List Char} (h : SpellsText body cs)
    (read : List Char) (bound rest : Input) (hbound : cs.length < bound.length) :
    readPieces bound read true (body.map some ++ some '"' :: rest) =
      .ok (read.reverse ++ cs, rest) := by
  induction h generalizing read bound with
  | nil =>
    obtain ⟨s, bound, rfl⟩ := List.exists_cons_of_length_pos hbound
    simp [readPieces, readPiece, bind, Except.bind]
  | cons hc _ ih =>
    obtain ⟨s, bound, rfl⟩ := List.exists_cons_of_length_pos (Nat.zero_lt_of_lt hbound)
    have hbound' := Nat.lt_of_succ_lt_succ hbound
    rw [List.map_append, List.append_assoc]
    simp [readPieces, readPiece_spelled hc, bind, Except.bind, ih _ _ hbound']

theorem Spells.length_pos {spelling : List Char} {c : Char} (h : Spells spelling c) :
    0 < spelling.length := by
  cases h <;> simp

/-- Each character is written as at least one. -/
private theorem SpellsText.length_le {body cs : List Char} (h : SpellsText body cs) :
    cs.length ≤ body.length := by
  induction h with
  | nil => simp
  | cons hc _ ih =>
    have hone := hc.length_pos
    simp only [List.length_append, List.length_cons]
    omega

/-- A text is read behind its opening quote, whichever way it is written. -/
theorem readQuoted_spelled {body : List Char} {s : String} (h : SpellsText body s.toList)
    (rest : Input) : readQuoted (body.map some ++ some '"' :: rest) = .ok (s, rest) := by
  have hlength := h.length_le
  have hbound : s.toList.length < (none :: (body.map some ++ some '"' :: rest)).length := by
    simp only [List.length_cons, List.length_append, List.length_map]
    omega
  simp [readQuoted, readPieces_spelled h _ _ _ hbound, bind, Except.bind]

/-- A piece is skipped, and the text goes on behind it. -/
private theorem readPiece_skipUnit {piece : List Char} (h : IsPiece piece) (rest : Input) :
    ∃ read, readPiece skipUnit (piece.map some ++ rest) = .ok (read, rest) ∧ read ≠ .close := by
  cases h with
  | plain hc => exact ⟨_, readPiece_plain _ hc rest, by simp⟩
  | letter hc => exact ⟨_, readPiece_letter _ hc rest, by simp⟩
  | unit hunit =>
    refine ⟨.broken, ?_, by simp⟩
    simp [readPiece, skipUnit, readUnit_spelled hunit, bind, Except.bind]

private theorem skipPieces_text {body : List Char} (h : IsText body) (bound rest : Input)
    (hbound : body.length < bound.length) :
    skipPieces bound (body.map some ++ some '"' :: rest) = .ok rest := by
  induction h generalizing bound with
  | nil =>
    obtain ⟨s, bound, rfl⟩ := List.exists_cons_of_length_pos hbound
    simp [skipPieces, readPiece, bind, Except.bind]
  | @cons piece body hpiece _ ih =>
    obtain ⟨s, bound, rfl⟩ := List.exists_cons_of_length_pos (Nat.zero_lt_of_lt hbound)
    have hone : 0 < piece.length := by cases hpiece <;> simp
    have hbound' : body.length < bound.length := by
      simp only [List.length_append, List.length_cons] at hbound
      omega
    obtain ⟨read, hread, hgoes⟩ := readPiece_skipUnit hpiece (body.map some ++ some '"' :: rest)
    rw [List.map_append, List.append_assoc, skipPieces, hread]
    cases read with
    | close => exact absurd rfl hgoes
    | char c => exact ih bound hbound'
    | broken => exact ih bound hbound'

/-- A text is skipped behind its opening quote. -/
theorem skipQuoted_text {body : List Char} (h : IsText body) (rest : Input) :
    skipQuoted (body.map some ++ some '"' :: rest) = .ok ((), rest) := by
  have hbound : body.length < (none :: (body.map some ++ some '"' :: rest)).length := by
    simp only [List.length_cons, List.length_append, List.length_map]
    omega
  simp [skipQuoted, skipPieces_text h _ rest hbound, bind, Except.bind]

end Periscope.Json
