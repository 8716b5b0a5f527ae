import Periscope.Cgroup.KeyedFile
import Periscope.Proofs.Text.Blank
import Periscope.Proofs.Text.Numeral

/-!
# What an accounting file says of a key

A file of keys says a number of a key in each line that has the key and then the number in front.
The last of these lines counts, and no other line matters for the key. So two files, one behind the
other, say what the second one says and, of all other keys, what the first one says.
-/

namespace Periscope

/-- A line says a number of a key: its first two fields are the key and the number. -/
def KeyLine (key : String) (n : UInt64) (line : List Char) : Prop :=
  ∃ value others, fieldsOf line = key.toList :: value :: others ∧
    SpellsWord (String.ofList value) n

/-- A file says a number of a key in a line, and no line behind it says a number of this key. -/
def Keyed (content key : String) (n : UInt64) : Prop :=
  ∃ before line behind, linesOf content.toList = before ++ line :: behind ∧ KeyLine key n line ∧
    ∀ later ∈ behind, ∀ m, ¬ KeyLine key m later

/-- The key and number of a line are what the line says. -/
theorem keyedLine_eq_some_iff {line : List Char} {key : String} {n : UInt64} :
    keyedLine line = some (key, n) ↔ KeyLine key n line := by
  simp only [keyedLine, KeyLine, ← readWord_eq_ok_iff]
  constructor
  · intro h
    split at h
    · next name value others hfields =>
      split at h
      · next m hread =>
        obtain ⟨rfl, rfl⟩ := Prod.mk.inj (Option.some.inj h)
        exact ⟨value, others, by rw [hfields, String.toList_ofList], hread⟩
      · cases h
    · cases h
  · rintro ⟨value, others, hfields, hread⟩
    rw [hfields]
    simp only [hread, String.ofList_toList]

/-- Whether a line says a number of a key. -/
private theorem any_keyedLine_iff {line : List Char} {key : String} :
    (keyedLine line).any (·.1 = key) = true ↔ ∃ n, KeyLine key n line := by
  simp only [← keyedLine_eq_some_iff, Option.any_eq_true, decide_eq_true_eq]
  constructor
  · rintro ⟨⟨_, n⟩, hline, rfl⟩
    exact ⟨n, hline⟩
  · rintro ⟨n, hline⟩
    exact ⟨(key, n), hline, rfl⟩

/-- The number of the last pair with a key. -/
def lastNumber? (key : String) (pairs : List (String × UInt64)) : Option UInt64 :=
  (pairs.reverse.find? (·.1 = key)).map Prod.snd

/-- Later pairs override earlier ones. -/
theorem lastNumber?_append (key : String) (earlier later : List (String × UInt64)) :
    lastNumber? key (earlier ++ later) = (lastNumber? key later).or (lastNumber? key earlier) := by
  rw [lastNumber?, List.reverse_append, List.find?_append, Option.map_or]
  rfl

/-- The number of a key in some lines is that of the first line from behind that says one. -/
private theorem lastNumber?_eq_some_iff_find? {lines : List (List Char)} {key : String}
    {n : UInt64} : lastNumber? key (lines.filterMap keyedLine) = some n ↔
      ∃ line, lines.reverse.find? (fun line => (keyedLine line).any (·.1 = key)) = some line ∧
        KeyLine key n line := by
  rw [lastNumber?, ← List.filterMap_reverse, List.find?_filterMap]
  constructor
  · intro h
    obtain ⟨⟨name, m⟩, hnumber, rfl⟩ := Option.map_eq_some_iff.mp h
    obtain ⟨line, hfind, hline⟩ := Option.bind_eq_some_iff.mp hnumber
    have hfound : (keyedLine line).any (·.1 = key) = true := by simpa using List.find?_some hfind
    obtain ⟨k, hk⟩ := any_keyedLine_iff.mp hfound
    obtain ⟨rfl, rfl⟩ :=
      Prod.mk.inj (Option.some.inj (hline.symm.trans (keyedLine_eq_some_iff.mpr hk)))
    exact ⟨line, hfind, hk⟩
  · rintro ⟨line, hfind, hline⟩
    rw [hfind, Option.bind_some, keyedLine_eq_some_iff.mpr hline]
    rfl

/-- The number of a key in some lines is what the last line says that says one. -/
private theorem lastNumber?_eq_some_iff {lines : List (List Char)} {key : String} {n : UInt64} :
    lastNumber? key (lines.filterMap keyedLine) = some n ↔
      ∃ before line behind, lines = before ++ line :: behind ∧ KeyLine key n line ∧
        ∀ later ∈ behind, ∀ m, ¬ KeyLine key m later := by
  rw [lastNumber?_eq_some_iff_find?]
  constructor
  · rintro ⟨line, hfind, hline⟩
    obtain ⟨_, behind, before, hsplit, hnone⟩ := List.find?_eq_some_iff_append.mp hfind
    refine ⟨before.reverse, line, behind.reverse, ?_, hline, fun later hlater m hm => ?_⟩
    · simpa using congrArg List.reverse hsplit
    · have hfound := any_keyedLine_iff.mpr ⟨m, hm⟩
      simpa [hfound] using hnone later (List.mem_reverse.mp hlater)
  · rintro ⟨before, line, behind, hsplit, hline, hnone⟩
    refine ⟨line, List.find?_eq_some_iff_append.mpr ⟨any_keyedLine_iff.mpr ⟨n, hline⟩,
      behind.reverse, before.reverse, by simp [hsplit], ?_⟩, hline⟩
    intro later hlater
    rw [Bool.not_eq_true', ← Bool.not_eq_true, any_keyedLine_iff]
    exact fun ⟨m, hm⟩ => hnone later (List.mem_reverse.mp hlater) m hm

/-- The number of a key is what the file says of it. -/
theorem keyedValue?_eq_some_iff {content key : String} {n : UInt64} :
    keyedValue? content key = some n ↔ Keyed content key n := lastNumber?_eq_some_iff

/-- A key without a number is one that the file says nothing of. -/
theorem keyedValue?_eq_none_iff {content key : String} :
    keyedValue? content key = none ↔ ∀ n, ¬ Keyed content key n := by
  simp only [← keyedValue?_eq_some_iff, Option.eq_none_iff_forall_ne_some]

namespace AccountingFile

/-- A required number is what the file says of the key. -/
theorem required_eq_ok_iff {path content key : String} {n : UInt64} :
    required path content key = .ok n ↔ Keyed content key n := by
  rw [← keyedValue?_eq_some_iff, required]
  cases keyedValue? content key <;> simp

/-- A key that the file says nothing of is missed. -/
theorem required_eq_error_iff {path content key : String} {cause : IoError} :
    required path content key = .error cause ↔
      (∀ n, ¬ Keyed content key n) ∧ cause = invalid path ("missing key " ++ key) := by
  rw [← keyedValue?_eq_none_iff, required]
  cases keyedValue? content key <;> simp [eq_comm]

/-- A number is what the word spells. -/
theorem number_eq_ok_iff {path word : String} {n : UInt64} :
    number path word = .ok n ↔ SpellsWord word n := by
  rw [← readWord_eq_ok_iff, number]
  cases Text.readWord word with
  | ok m => exact ⟨fun h => congrArg _ (Except.ok.inj h), fun h => congrArg _ (Except.ok.inj h)⟩
  | error e => exact ⟨nofun, nofun⟩

/-- A word that spells no number is an error of the file. -/
theorem number_eq_error_iff {path word : String} {cause : IoError} :
    number path word = .error cause ↔
      ∃ e, MisspellsWord word e ∧ cause = invalid path e.message := by
  simp only [← readWord_eq_error_iff, number]
  cases Text.readWord word with
  | ok m => exact ⟨nofun, fun ⟨_, h, _⟩ => nomatch h⟩
  | error e =>
    constructor
    · intro h
      exact ⟨e, rfl, (Except.error.inj h).symm⟩
    · rintro ⟨_, h, rfl⟩
      obtain rfl := Except.error.inj h
      rfl

/-- The number of a file is what its text spells between blanks. -/
theorem single_eq_ok_iff {path content : String} {n : UInt64} :
    single path content = .ok n ↔ SpellsWord (Text.trim content) n := number_eq_ok_iff

/-- A text that spells no number is an error of the file. -/
theorem single_eq_error_iff {path content : String} {cause : IoError} :
    single path content = .error cause ↔
      ∃ e, MisspellsWord (Text.trim content) e ∧ cause = invalid path e.message :=
  number_eq_error_iff

section Texts

variable {α : Type} {path : String} {value : String → Except IoError α}
  {text : Except IoError String}

/-- The value of a file whose text, or the error of reading it, is given. -/
def valueOf (path : String) (value : String → Except IoError α) (text : Except IoError String) :
    Except IoError α :=
  match text with
  | .error cause => .error (unreadable path cause)
  | .ok content => value content

theorem valueOf_eq_ok_iff {x : α} :
    valueOf path value text = .ok x ↔ ∃ content, text = .ok content ∧ value content = .ok x := by
  cases text <;> simp [valueOf]

theorem valueOf_eq_error_iff {cause : IoError} : valueOf path value text = .error cause ↔
    (∃ e, text = .error e ∧ cause = unreadable path e) ∨
      ∃ content, text = .ok content ∧ value content = .error cause := by
  cases text <;> simp [valueOf, eq_comm]

end Texts

end AccountingFile

/-! ## Files as they are written -/

/-- A line says a number of a key: the first two of the words that are laid out in it are the key
and a numeral of the number. -/
def NumberLine (key : String) (n : UInt64) (line : List Char) : Prop :=
  ∃ numeral others, LaidOut (key.toList :: numeral :: others) line ∧
    SpellsWord (String.ofList numeral) n

/-- Of the lines that a text is made of, one says this number of a key, and none behind it says
any. -/
def LastNumber (content key : String) (n : UInt64) : Prop :=
  ∃ before line behind, MadeOf (before ++ line :: behind) content ∧ NumberLine key n line ∧
    ∀ later ∈ behind, ∀ m, ¬ NumberLine key m later

theorem keyLine_iff {key : String} {n : UInt64} {line : List Char} :
    KeyLine key n line ↔ NumberLine key n line := by
  simp only [KeyLine, NumberLine, laidOut_iff]

/-- A carriage return at the end of a line does not change what it says. -/
theorem keyedLine_dropReturn (line : List Char) : keyedLine (dropReturn line) = keyedLine line := by
  rw [keyedLine, fieldsOf_dropReturn, ← keyedLine]

section Files

variable {content key : String} {n : UInt64} {lines before behind : List (List Char)}
  {line : List Char}

theorem keyedLines_of_madeOf (h : MadeOf lines content) :
    keyedLines content = lines.filterMap keyedLine := by
  rw [keyedLines, h.text, String.toList_ofList,
    filterMap_linesOf rfl keyedLine_dropReturn h.unbroken]

/-- Two files, one behind the other, say what the first one says and then what the second one
says. -/
theorem keyedLines_append (front back : String) :
    keyedLines (front ++ "\n" ++ back) = keyedLines front ++ keyedLines back := by
  have htext : (front ++ "\n" ++ back).toList = front.toList ++ '\n' :: back.toList := by
    rw [String.toList_append, String.toList_append, List.append_assoc]
    rfl
  rw [keyedLines, htext, filterMap_linesOf_append rfl keyedLine_dropReturn]
  rfl

theorem keyedValue?_of_madeOf (h : MadeOf lines content) :
    keyedValue? content key = lastNumber? key (lines.filterMap keyedLine) := by
  rw [← keyedLines_of_madeOf h]
  rfl

/-- The number of a key is the last one that the file says of it, however it is written. -/
theorem keyedValue?_eq_some_iff_lastNumber :
    keyedValue? content key = some n ↔ LastNumber content key n := by
  simp only [LastNumber, ← keyLine_iff]
  constructor
  · intro h
    have hmade := madeOf_splitOnP content
    rw [keyedValue?_of_madeOf hmade, lastNumber?_eq_some_iff] at h
    obtain ⟨before, line, behind, hlines, hline⟩ := h
    exact ⟨before, line, behind, hlines ▸ hmade, hline⟩
  · rintro ⟨before, line, behind, hmade, hline⟩
    rw [keyedValue?_of_madeOf hmade, lastNumber?_eq_some_iff]
    exact ⟨before, line, behind, rfl, hline⟩

theorem keyed_iff_lastNumber : Keyed content key n ↔ LastNumber content key n :=
  keyedValue?_eq_some_iff.symm.trans keyedValue?_eq_some_iff_lastNumber

/-- A line that says no number of a key does not matter for it. -/
theorem lastNumber?_of_not_numberLine (h : ∀ n, ¬ NumberLine key n line) :
    lastNumber? key ((before ++ line :: behind).filterMap keyedLine) =
      lastNumber? key ((before ++ behind).filterMap keyedLine) := by
  have hline : lastNumber? key ([line].filterMap keyedLine) = none := by
    rw [Option.eq_none_iff_forall_ne_some]
    intro n hn
    obtain ⟨_, found, _, hsplit, hfound, _⟩ := lastNumber?_eq_some_iff.mp hn
    have hmem : found ∈ [line] := hsplit ▸ List.mem_append_cons_self
    exact h n (keyLine_iff.mp (List.mem_singleton.mp hmem ▸ hfound))
  rw [← List.singleton_append]
  simp only [List.filterMap_append, lastNumber?_append, hline, Option.or_none]

end Files

/-- **A file of keys says of each key its last number.** A key has a number exactly if some line of
the file has the key as its first word and a numeral of a word of 64 bits as its second one, with
any blanks around them and anything behind them, and it is the number of the last such line. A line
that says no number of a key does not matter for it, wherever it stands and whatever else is in it,
so a spoiled line hides no good one. And two files, one behind the other, say what the second one
says, and what the first one says of the keys that the second one says nothing of. -/
theorem keyed_file_read :
    (∀ content key n, keyedValue? content key = some n ↔ LastNumber content key n) ∧
      (∀ (content rest key : String) (before behind : List (List Char)) (line : List Char),
        MadeOf (before ++ line :: behind) content → MadeOf (before ++ behind) rest →
          (∀ n, ¬ NumberLine key n line) → keyedValue? content key = keyedValue? rest key) ∧
      ∀ front back key, keyedValue? (front ++ "\n" ++ back) key =
        (keyedValue? back key).or (keyedValue? front key) := by
  refine ⟨fun _ _ _ => keyedValue?_eq_some_iff_lastNumber, ?_, fun front back key => ?_⟩
  · intro content rest key before behind line hcontent hrest hline
    rw [keyedValue?_of_madeOf hcontent, keyedValue?_of_madeOf hrest,
      lastNumber?_of_not_numberLine hline]
  · have hlast (text : String) : keyedValue? text key = lastNumber? key (keyedLines text) := rfl
    rw [hlast, keyedLines_append, lastNumber?_append, ← hlast, ← hlast]

/-- A line whose number has a letter in it, behind a good one with other blanks, a plus and a unit,
and in front of one that has no number. -/
theorem keyed_file_read_beside_spoiled_line :
    let before := ["\tuser\u00a0 +10 kB".toList]
    let line := "user 1x\r".toList
    let behind := ["user".toList, "system 5".toList]
    let content := "\tuser\u00a0 +10 kB\nuser 1x\r\nuser\nsystem 5"
    let rest := "\tuser\u00a0 +10 kB\nuser\nsystem 5"
    MadeOf (before ++ line :: behind) content ∧ MadeOf (before ++ behind) rest ∧
      (∀ n, ¬ NumberLine "user" n line) ∧
        keyedValue? content "user" = keyedValue? rest "user" ∧
          keyedValue? content "user" = some 10 := by
  intro before line behind content rest
  have hcontent : MadeOf (before ++ line :: behind) content := ⟨rfl, by decide⟩
  have hrest : MadeOf (before ++ behind) rest := ⟨rfl, by decide⟩
  have hspoiled : keyedLine line = none := by decide
  have hline : ∀ n, ¬ NumberLine "user" n line := by
    intro n hn
    rw [← keyLine_iff, ← keyedLine_eq_some_iff, hspoiled] at hn
    cases hn
  have hsame := keyed_file_read.2.1 content rest "user" before behind line hcontent hrest hline
  exact ⟨hcontent, hrest, hline, hsame, hsame.trans (by decide)⟩

end Periscope
