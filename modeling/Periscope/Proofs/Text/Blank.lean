import Mathlib.Data.List.TakeWhile
import Periscope.Text.Blank

/-!
# Blanks around a text, fields and lines

Blanks around a text do not matter once it is trimmed, and a character that is no blank keeps its
place between what is left on both sides of it. A blank between two texts divides their fields, so
the fields are the words that are laid out in a text, with any blanks around and between them.
-/

namespace Periscope

/-- Characters that are all blanks. -/
def AllBlank (cs : List Char) : Prop := ∀ c ∈ cs, isBlank c = true

instance (cs : List Char) : Decidable (AllBlank cs) :=
  List.decidableBAll (isBlank · = true) cs

/-- A text without a blank at either end. -/
structure Trimmed (s : List Char) : Prop where
  /-- The first character, if there is one, is no blank. -/
  first : ∀ c ∈ s.head?, isBlank c = false
  /-- Nor is the last one. -/
  last : ∀ c ∈ s.getLast?, isBlank c = false

theorem trimmed_iff {s : List Char} :
    Trimmed s ↔ ∀ c ∈ s.head?.toList ++ s.getLast?.toList, isBlank c = false := by
  simp only [List.forall_mem_append, Option.mem_toList]
  exact ⟨fun h => ⟨h.first, h.last⟩, fun ⟨hfirst, hlast⟩ => ⟨hfirst, hlast⟩⟩

instance (s : List Char) : Decidable (Trimmed s) :=
  @decidable_of_iff' _ _ trimmed_iff (List.decidableBAll (isBlank · = false) _)

section Trimming

variable {s front back blanks : List Char} {c : Char}

private theorem dropWhile_append_cons (hc : isBlank c = false) (front back : List Char) :
    (front ++ c :: back).dropWhile isBlank = front.dropWhile isBlank ++ c :: back := by
  rw [List.dropWhile_append, List.dropWhile_cons_of_neg (by simp [hc])]
  split
  · next hempty => rw [List.isEmpty_iff.mp hempty, List.nil_append]
  · rfl

private theorem dropWhile_eq_self (h : ∀ c ∈ s.head?, isBlank c = false) :
    s.dropWhile isBlank = s := by
  cases s with
  | nil => rfl
  | cons c rest => exact List.dropWhile_cons_of_neg (by simp [h c rfl])

/-- Blanks in front do not matter. -/
theorem trimBlanks_append_left (hblanks : AllBlank blanks) :
    trimBlanks (blanks ++ s) = trimBlanks s := by
  rw [trimBlanks, List.dropWhile_append_of_pos hblanks, ← trimBlanks]

/-- Blanks behind do not matter. -/
theorem trimBlanks_append_right (hblanks : AllBlank blanks) :
    trimBlanks (s ++ blanks) = trimBlanks s := by
  rw [trimBlanks, trimBlanks, List.dropWhile_append]
  split
  · next hempty =>
    rw [List.isEmpty_iff.mp hempty, List.dropWhile_eq_nil_iff.mpr hblanks]
  · rw [List.reverse_append,
      List.dropWhile_append_of_pos fun c hc => hblanks c (List.mem_reverse.mp hc)]

/-- A text without blanks at its ends stays as it is. -/
theorem Trimmed.trimBlanks_eq (h : Trimmed s) : trimBlanks s = s := by
  have hlast : ∀ c ∈ s.reverse.head?, isBlank c = false := by
    rw [List.head?_reverse]
    exact h.last
  rw [trimBlanks, dropWhile_eq_self h.first, dropWhile_eq_self hlast, List.reverse_reverse]

/-- A text between two characters that are no blanks has no blank at either end. -/
theorem Trimmed.between {c d : Char} (hc : isBlank c = false) (hd : isBlank d = false)
    (s : List Char) : Trimmed (c :: s ++ [d]) where
  first := by
    rintro _ ⟨rfl⟩
    exact hc
  last := by
    rw [List.getLast?_concat]
    rintro _ ⟨rfl⟩
    exact hd

theorem trimBlanks_surrounded (h : Trimmed s) (hfront : AllBlank front) (hback : AllBlank back) :
    trimBlanks (front ++ s ++ back) = s := by
  rw [trimBlanks_append_right hback, trimBlanks_append_left hfront, h.trimBlanks_eq]

/-- A character that is no blank stands between what is left in front of it and behind it. -/
theorem trimBlanks_append_cons (hc : isBlank c = false) (front back : List Char) :
    ∃ front' back', trimBlanks (front ++ c :: back) = front' ++ c :: back' ∧
      front' = front.dropWhile isBlank ∧ trimBlanks front' = trimBlanks front ∧
      trimBlanks back' = trimBlanks back := by
  refine ⟨front.dropWhile isBlank, (back.reverse.dropWhile isBlank).reverse, ?_, rfl, ?_, ?_⟩
  · rw [trimBlanks, dropWhile_append_cons hc, List.reverse_append, List.reverse_cons,
      List.append_assoc, List.singleton_append, dropWhile_append_cons hc]
    simp
  · have hsplit : front.takeWhile isBlank ++ front.dropWhile isBlank = front :=
      List.takeWhile_append_dropWhile
    have hblanks : AllBlank (front.takeWhile isBlank) := fun c hc =>
      List.mem_takeWhile_imp hc
    rw [← trimBlanks_append_left (s := front.dropWhile isBlank) hblanks, hsplit]
  · have hsplit : (back.reverse.dropWhile isBlank).reverse ++
        (back.reverse.takeWhile isBlank).reverse = back := by
      rw [← List.reverse_append, List.takeWhile_append_dropWhile, List.reverse_reverse]
    have hblanks : AllBlank (back.reverse.takeWhile isBlank).reverse := fun c hc =>
      List.mem_takeWhile_imp (List.mem_reverse.mp hc)
    rw [← trimBlanks_append_right (s := (back.reverse.dropWhile isBlank).reverse) hblanks, hsplit]

/-- Trimming adds no character. -/
theorem mem_of_mem_trimBlanks (h : c ∈ trimBlanks s) : c ∈ s := by
  rw [trimBlanks, List.mem_reverse] at h
  have h := (List.dropWhile_sublist isBlank).mem h
  exact (List.dropWhile_sublist isBlank).mem (List.mem_reverse.mp h)

/-- The carriage return at the end of a line is a blank. -/
theorem trimBlanks_dropReturn (line : List Char) :
    trimBlanks (dropReturn line) = trimBlanks line := by
  rw [dropReturn]
  split
  · next hlast =>
    obtain ⟨front, rfl⟩ := List.getLast?_eq_some_iff.mp hlast
    rw [List.dropLast_concat, trimBlanks_append_right (by decide)]
  · rfl

end Trimming

section Fields

variable {s front back blanks word rest : List Char} {words : List (List Char)} {c : Char}

/-- A blank divides the fields in front of it from those behind it. -/
theorem fieldsOf_append_cons (hc : isBlank c = true) (front back : List Char) :
    fieldsOf (front ++ c :: back) = fieldsOf front ++ fieldsOf back := by
  rw [fieldsOf, List.splitOnP_append_cons front back hc, List.filter_append]
  rfl

theorem fieldsOf_nil : fieldsOf [] = [] := rfl

/-- Characters in a row that are no blanks are one field. -/
theorem fieldsOf_word (hne : word ≠ []) (hword : ∀ c ∈ word, isBlank c = false) :
    fieldsOf word = [word] := by
  rw [fieldsOf, List.splitOnP_eq_singleton hword]
  simp [hne]

theorem fieldsOf_cons (hc : isBlank c = true) (s : List Char) : fieldsOf (c :: s) = fieldsOf s :=
  fieldsOf_append_cons hc [] s

/-- Blanks in front of a text are in none of its fields. -/
theorem fieldsOf_append_left (hblanks : AllBlank blanks) (s : List Char) :
    fieldsOf (blanks ++ s) = fieldsOf s := by
  induction blanks with
  | nil => rfl
  | cons c blanks ih =>
    obtain ⟨hc, hblanks⟩ := List.forall_mem_cons.mp hblanks
    rw [List.cons_append, fieldsOf_cons hc, ih hblanks]

/-- The carriage return at the end of a line is in none of its fields. -/
theorem fieldsOf_dropReturn (line : List Char) : fieldsOf (dropReturn line) = fieldsOf line := by
  rw [dropReturn]
  split
  · next hlast =>
    obtain ⟨front, rfl⟩ := List.getLast?_eq_some_iff.mp hlast
    rw [List.dropLast_concat, fieldsOf_append_cons (by decide), fieldsOf_nil, List.append_nil]
  · rfl

/-- A word: there are characters in it, and none of them is a blank. -/
structure IsWord (word : List Char) : Prop where
  /-- There is a character. -/
  nonempty : word ≠ []
  /-- There are no blanks. -/
  unbroken : ∀ c ∈ word, isBlank c = false

/-- Words are laid out in a text, in their order. Blanks may stand in front of the first one and
behind the last one, and at least one stands between each two. -/
inductive LaidOut : List (List Char) → List Char → Prop where
  /-- There are only blanks. -/
  | nil {blanks : List Char} (hblanks : AllBlank blanks) : LaidOut [] blanks
  /-- Behind the first word comes a blank or nothing. -/
  | cons {blanks word rest : List Char} {words : List (List Char)} (hblanks : AllBlank blanks)
      (hword : IsWord word) (hends : ∀ c ∈ rest.head?, isBlank c = true)
      (hrest : LaidOut words rest) : LaidOut (word :: words) (blanks ++ word ++ rest)

/-- A word that ends at a blank is the first field. -/
theorem fieldsOf_append_word (hword : IsWord word) (hends : ∀ c ∈ rest.head?, isBlank c = true) :
    fieldsOf (word ++ rest) = word :: fieldsOf rest := by
  have hfields := fieldsOf_word hword.nonempty hword.unbroken
  cases rest with
  | nil => rw [List.append_nil, hfields, fieldsOf_nil]
  | cons c rest =>
    have hc : isBlank c = true := hends c rfl
    rw [fieldsOf_append_cons hc, fieldsOf_cons hc, hfields, List.singleton_append]

theorem LaidOut.fieldsOf_eq (h : LaidOut words s) : fieldsOf s = words := by
  induction h with
  | @nil blanks hblanks =>
    rw [← List.append_nil blanks, fieldsOf_append_left hblanks, fieldsOf_nil]
  | cons hblanks hword hends _ ih =>
    rw [List.append_assoc, fieldsOf_append_left hblanks, fieldsOf_append_word hword hends, ih]

/-- The first word may stand at the start of the text. -/
theorem LaidOut.atStart (hword : IsWord word) (hends : ∀ c ∈ rest.head?, isBlank c = true)
    (hrest : LaidOut words rest) : LaidOut (word :: words) (word ++ rest) :=
  @LaidOut.cons [] word rest words (List.forall_mem_nil _) hword hends hrest

/-- Some words are laid out in any text. -/
theorem exists_laidOut (s : List Char) : ∃ words, LaidOut words s := by
  induction s with
  | nil => exact ⟨[], .nil (List.forall_mem_nil _)⟩
  | cons c s ih =>
    obtain ⟨words, h⟩ := ih
    cases hc : isBlank c with
    | true =>
      -- One more blank stands in front.
      refine ⟨words, ?_⟩
      cases h with
      | nil hblanks => exact .nil (List.forall_mem_cons.mpr ⟨hc, hblanks⟩)
      | cons hblanks hword hends hrest =>
        exact .cons (List.forall_mem_cons.mpr ⟨hc, hblanks⟩) hword hends hrest
    | false =>
      have hletter : IsWord [c] := ⟨List.cons_ne_nil c [], List.forall_mem_singleton.mpr hc⟩
      cases h with
      | nil hblanks =>
        exact ⟨[[c]], .atStart hletter (fun d hd => hblanks d (List.mem_of_mem_head? hd))
          (.nil hblanks)⟩
      | @cons blanks word rest words hblanks hword hends hrest =>
        cases blanks with
        | nil =>
          -- The character belongs to the first word.
          have hlonger : IsWord (c :: word) :=
            ⟨List.cons_ne_nil c word, List.forall_mem_cons.mpr ⟨hc, hword.unbroken⟩⟩
          exact ⟨(c :: word) :: words, .atStart hlonger hends hrest⟩
        | cons d blanks =>
          have hd : ∀ e ∈ (d :: blanks ++ word ++ rest).head?, isBlank e = true := by
            rintro _ ⟨rfl⟩
            exact hblanks d List.mem_cons_self
          exact ⟨[c] :: word :: words, .atStart hletter hd (.cons hblanks hword hends hrest)⟩

/-- The fields of a text are the words that are laid out in it. -/
theorem laidOut_iff : LaidOut words s ↔ fieldsOf s = words := by
  refine ⟨LaidOut.fieldsOf_eq, ?_⟩
  rintro rfl
  obtain ⟨words, h⟩ := exists_laidOut s
  rwa [h.fieldsOf_eq]

instance (words : List (List Char)) (s : List Char) : Decidable (LaidOut words s) :=
  decidable_of_iff' _ laidOut_iff

theorem fields_eq_iff {s : String} {words : List String} :
    Text.fields s = words ↔ LaidOut (words.map String.toList) s.toList := by
  rw [laidOut_iff, Text.fields]
  constructor
  · rintro rfl
    simp
  · intro h
    rw [h]
    simp

end Fields

section Lines

variable {α : Type} {f : List Char → Option α} {lines : List (List Char)}

/-- A text is made of lines, with a line feed between each two. -/
structure MadeOf (lines : List (List Char)) (content : String) : Prop where
  /-- The lines are joined by line feeds. -/
  text : content = String.ofList (['\n'].intercalate lines)
  /-- There are no line feeds inside of them. -/
  unbroken : ∀ line ∈ lines, '\n' ∉ line

/-- No line feed is in what line feeds divide. -/
theorem not_mem_of_mem_splitOnP {s line : List Char} (hline : line ∈ s.splitOnP (· = '\n')) :
    '\n' ∉ line := by
  induction s generalizing line with
  | nil =>
    rw [List.splitOnP_nil, List.mem_singleton] at hline
    exact hline ▸ List.not_mem_nil
  | cons c s ih =>
    rw [List.splitOnP_cons_eq_if_modifyHead] at hline
    split at hline
    · rcases List.mem_cons.mp hline with rfl | hline
      · exact List.not_mem_nil
      · exact ih hline
    · next hc =>
      -- The character is put in front of the first line.
      obtain ⟨first, others, hsplit⟩ :=
        List.exists_cons_of_ne_nil (List.splitOnP_ne_nil (· = '\n') s)
      rw [hsplit, List.modifyHead_cons] at hline
      rw [hsplit] at ih
      rcases List.mem_cons.mp hline with rfl | hline
      · have hne : '\n' ≠ c := by simpa [eq_comm] using hc
        exact List.not_mem_cons_of_ne_of_not_mem hne (ih List.mem_cons_self)
      · exact ih (List.mem_cons_of_mem first hline)

/-- Any text is made of the lines that its line feeds divide. -/
theorem madeOf_splitOnP (content : String) :
    MadeOf (content.toList.splitOnP (· = '\n')) content where
  text := by
    have hjoined : ['\n'].intercalate (content.toList.splitOnP (· = '\n')) = content.toList :=
      List.intercalate_splitOn '\n'
    rw [hjoined, String.ofList_toList]
  unbroken _ := not_mem_of_mem_splitOnP

/-- What is told by lines does not change if the line feeds at their ends divide them: a line
without characters tells nothing, and a carriage return at its end does not matter. -/
theorem filterMap_linesOf_eq (hnil : f [] = none) (hreturn : ∀ line, f (dropReturn line) = f line)
    (s : List Char) : (linesOf s).filterMap f = (s.splitOnP (· = '\n')).filterMap f := by
  have hterminated (pieces : List (List Char)) :
      (terminatedLines pieces).filterMap f = pieces.filterMap f := by
    induction pieces with
    | nil => rfl
    | cons line rest ih =>
      cases rest with
      | nil =>
        rw [terminatedLines]
        split
        · next hempty => simp [hempty, hnil]
        · rfl
      | cons next rest =>
        rw [terminatedLines, List.filterMap_cons, List.filterMap_cons, hreturn, ih]
        simp
  exact hterminated _

/-- A line feed divides the lines in front of it from those behind it. -/
theorem filterMap_linesOf_append (hnil : f [] = none)
    (hreturn : ∀ line, f (dropReturn line) = f line) (front back : List Char) :
    (linesOf (front ++ '\n' :: back)).filterMap f =
      (linesOf front).filterMap f ++ (linesOf back).filterMap f := by
  simp only [filterMap_linesOf_eq hnil hreturn]
  rw [List.splitOnP_append_cons front back (by decide), List.filterMap_append]

/-- Lines tell the same in a text that is made of them. -/
theorem filterMap_linesOf (hnil : f [] = none) (hreturn : ∀ line, f (dropReturn line) = f line)
    (hlines : ∀ line ∈ lines, '\n' ∉ line) :
    (linesOf (['\n'].intercalate lines)).filterMap f = lines.filterMap f := by
  cases lines with
  | nil => rfl
  | cons line rest =>
    have hsplit : (['\n'].intercalate (line :: rest)).splitOnP (· = '\n') = line :: rest :=
      List.splitOn_intercalate '\n' hlines (List.cons_ne_nil line rest)
    rw [filterMap_linesOf_eq hnil hreturn, hsplit]

end Lines

end Periscope
