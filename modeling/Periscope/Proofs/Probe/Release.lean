import Periscope.Probe.OsRelease
import Periscope.Proofs.Text.Blank

/-!
# What a release file says

A release file says keys and their values, one pair on a line. A value may stand between double or
single quotes, which are dropped as one pair at most, so that all quotes and equals signs inside of
it stay. The last value of a key counts. Blanks around a line, a key and a value, comments and lines
without an equals sign say nothing.
-/

namespace Periscope

/-- A value stands between two quotes of one kind. -/
def Wrapped (value : List Char) : Prop :=
  ∃ inner, value = '"' :: inner ++ ['"'] ∨ value = '\'' :: inner ++ ['\'']

/-- The ways to write a value. -/
inductive WritesValue (value : List Char) : List Char → Prop where
  /-- Between double quotes. -/
  | double : WritesValue value ('"' :: value ++ ['"'])
  /-- Between single quotes. -/
  | single : WritesValue value ('\'' :: value ++ ['\''])
  /-- As it is, if it would lose neither blanks nor quotes. -/
  | bare (htrimmed : Trimmed value) (hwrapped : ¬ Wrapped value) : WritesValue value value

/-- A text that can be a key. -/
structure IsKey (key : List Char) : Prop where
  /-- No blanks stand around it. -/
  trimmed : Trimmed key
  /-- It has no equals sign. -/
  unsplit : '=' ∉ key
  /-- It does not look like a comment. -/
  uncommented : key.head? ≠ some '#'

/-- A line that says the value of a key. -/
inductive WritesPair (key value : List Char) : List Char → Prop where
  /-- The key, an equals sign and the value, with blanks around both. -/
  | line {indent behindKey beforeValue trail written : List Char} (hkey : IsKey key)
      (hvalue : WritesValue value written) (hindent : AllBlank indent)
      (hbehind : AllBlank behindKey) (hbefore : AllBlank beforeValue) (htrail : AllBlank trail) :
      WritesPair key value
        (indent ++ key ++ behindKey ++ '=' :: (beforeValue ++ written ++ trail))

/-- A line that says nothing. -/
inductive SaysNothing : List Char → Prop where
  /-- It has no equals sign; it may be empty. -/
  | unsplit {line : List Char} (hline : '=' ∉ line) : SaysNothing line
  /-- It is a comment. -/
  | comment {indent : List Char} (hindent : AllBlank indent) (rest : List Char) :
      SaysNothing (indent ++ '#' :: rest)

/-- Lines that say keys and values in order, one pair on a line, with lines in between that say
nothing. -/
inductive ReleaseLines : List (String × String) → List (List Char) → Prop where
  /-- There are no lines. -/
  | nil : ReleaseLines [] []
  /-- The first line says a pair. -/
  | pair {key value : String} {pairs : List (String × String)} {line : List Char}
      {lines : List (List Char)} (hline : WritesPair key.toList value.toList line)
      (hlines : ReleaseLines pairs lines) : ReleaseLines ((key, value) :: pairs) (line :: lines)
  /-- The first line says nothing. -/
  | nothing {pairs : List (String × String)} {line : List Char} {lines : List (List Char)}
      (hline : SaysNothing line) (hlines : ReleaseLines pairs lines) :
      ReleaseLines pairs (line :: lines)

/-! ## Values -/

/-- A pair of quotes is dropped exactly from what stands between two of them. -/
theorem unquote_eq_some_iff {quote : Char} {s inner : List Char} :
    unquote quote s = some inner ↔ s = quote :: inner ++ [quote] := by
  cases s with
  | nil => simp [unquote]
  | cons first rest =>
    rw [unquote]
    constructor
    · intro h
      split at h
      · next hquotes =>
        obtain ⟨rfl, hlast⟩ := hquotes
        obtain ⟨front, rfl⟩ := List.getLast?_eq_some_iff.mp hlast
        rw [List.dropLast_concat] at h
        rw [Option.some.inj h]
        rfl
      · cases h
    · intro h
      obtain ⟨rfl, rfl⟩ := List.cons.inj h
      simp

theorem unquote_eq_none {quote : Char} {s : List Char}
    (h : ∀ inner, s ≠ quote :: inner ++ [quote]) : unquote quote s = none := by
  rw [Option.eq_none_iff_forall_ne_some]
  exact fun inner hinner => h inner (unquote_eq_some_iff.mp hinner)

variable {value written : List Char}

/-- A written value has no blanks around it: its ends are quotes or those of the value. -/
theorem WritesValue.trimmed (h : WritesValue value written) : Trimmed written := by
  cases h with
  | double => exact .between (by decide) (by decide) value
  | single => exact .between (by decide) (by decide) value
  | bare htrimmed => exact htrimmed

/-- A value is read back from each way to write it, whatever blanks stand around it. -/
theorem WritesValue.releaseValue_eq (h : WritesValue value written) {s : List Char}
    (hs : trimBlanks s = written) : releaseValue s = value := by
  rw [releaseValue, hs]
  cases h with
  | double => rw [unquote_eq_some_iff.mpr rfl]; rfl
  | single =>
    have hdouble : unquote '"' ('\'' :: value ++ ['\'']) = none := unquote_eq_none nofun
    rw [hdouble, unquote_eq_some_iff.mpr rfl]
    rfl
  | bare _ hwrapped =>
    have hdouble : unquote '"' value = none :=
      unquote_eq_none fun inner h => hwrapped ⟨inner, .inl h⟩
    have hsingle : unquote '\'' value = none :=
      unquote_eq_none fun inner h => hwrapped ⟨inner, .inr h⟩
    rw [hdouble, hsingle]
    rfl

/-! ## Lines -/

theorem splitFirst_append {separator : Char} {front : List Char} (hfront : separator ∉ front)
    (back : List Char) :
    splitFirst separator (front ++ separator :: back) = some (front, back) := by
  induction front with
  | nil => rw [List.nil_append, splitFirst, if_pos rfl]
  | cons c front ih =>
    have hc := Ne.symm (List.ne_of_not_mem_cons hfront)
    rw [List.cons_append, splitFirst, if_neg hc, ih (List.not_mem_of_not_mem_cons hfront)]
    rfl

theorem splitFirst_eq_none {separator : Char} {s : List Char} (h : separator ∉ s) :
    splitFirst separator s = none := by
  induction s with
  | nil => rfl
  | cons c rest ih =>
    have hc := Ne.symm (List.ne_of_not_mem_cons h)
    rw [splitFirst, if_neg hc, ih (List.not_mem_of_not_mem_cons h)]
    rfl

/-- The blanks around a key leave it without a comment's sign in front. -/
theorem IsKey.head?_dropWhile {key : List Char} (h : IsKey key) {indent behind : List Char}
    (hindent : AllBlank indent) (hbehind : AllBlank behind) (rest : List Char) :
    ((indent ++ key ++ behind).dropWhile isBlank ++ '=' :: rest).head? ≠ some '#' := by
  rw [List.append_assoc, List.dropWhile_append_of_pos hindent]
  cases key with
  | nil =>
    rw [List.nil_append, List.dropWhile_eq_nil_iff.mpr hbehind]
    simp
  | cons c key =>
    have hc : isBlank c = false := h.trimmed.first c rfl
    rw [List.cons_append, List.dropWhile_cons_of_neg (by simp [hc])]
    exact h.uncommented

theorem WritesPair.releaseLine_eq {key line : List Char} (h : WritesPair key value line) :
    releaseLine line = some (String.ofList key, String.ofList value) := by
  cases h with
  | @line indent behindKey beforeValue trail written hkey hvalue hindent hbehind hbefore htrail =>
    obtain ⟨front, back, htrim, hfront, hfrontTrim, hbackTrim⟩ := trimBlanks_append_cons
      (c := '=') (by decide) (indent ++ key ++ behindKey) (beforeValue ++ written ++ trail)
    rw [trimBlanks_surrounded hkey.trimmed hindent hbehind] at hfrontTrim
    rw [trimBlanks_surrounded hvalue.trimmed hbefore htrail] at hbackTrim
    have hcomment : (front ++ '=' :: back).head? ≠ some '#' :=
      hfront ▸ hkey.head?_dropWhile hindent hbehind back
    have hunsplit : '=' ∉ front := by
      intro hmem
      rw [hfront] at hmem
      have hmem := (List.dropWhile_sublist isBlank).mem hmem
      simp only [List.mem_append] at hmem
      have hblank : isBlank '=' = false := by decide
      rcases hmem with (hmem | hmem) | hmem
      · exact Bool.false_ne_true (hblank.symm.trans (hindent _ hmem))
      · exact hkey.unsplit hmem
      · exact Bool.false_ne_true (hblank.symm.trans (hbehind _ hmem))
    rw [releaseLine, htrim]
    simp only [if_neg hcomment, splitFirst_append hunsplit, Option.map_some, hfrontTrim,
      hvalue.releaseValue_eq hbackTrim]

theorem SaysNothing.releaseLine_eq {line : List Char} (h : SaysNothing line) :
    releaseLine line = none := by
  cases h with
  | unsplit hline =>
    have htrim : '=' ∉ trimBlanks line := fun hmem => hline (mem_of_mem_trimBlanks hmem)
    rw [releaseLine, splitFirst_eq_none htrim]
    split <;> rfl
  | @comment indent hindent rest =>
    obtain ⟨front, back, htrim, hfront, _, _⟩ :=
      trimBlanks_append_cons (c := '#') (by decide) indent rest
    rw [List.dropWhile_eq_nil_iff.mpr hindent] at hfront
    rw [releaseLine, htrim, hfront]
    exact if_pos rfl

/-- A carriage return at the end of a line does not change what it says. -/
theorem releaseLine_dropReturn (line : List Char) :
    releaseLine (dropReturn line) = releaseLine line := by
  rw [releaseLine, trimBlanks_dropReturn, ← releaseLine]

/-! ## Files -/

/-- The lines say just the pairs, in their order. -/
theorem ReleaseLines.filterMap_eq {pairs : List (String × String)} {lines : List (List Char)}
    (h : ReleaseLines pairs lines) : lines.filterMap releaseLine = pairs := by
  induction h with
  | nil => rfl
  | pair hline _ ih =>
    rw [List.filterMap_cons_some hline.releaseLine_eq, ih, String.ofList_toList,
      String.ofList_toList]
  | nothing hline _ ih => rw [List.filterMap_cons_none hline.releaseLine_eq, ih]

/-- **A release file is read as what it says.** Whatever the pairs are and however they are written
on the lines of the file: what is read has each key once and gives it the value of its last pair,
with all quotes and equals signs inside, and it has no other keys. -/
theorem release_file_read {pairs : List (String × String)} {lines : List (List Char)}
    (h : ReleaseLines pairs lines) (hlines : ∀ line ∈ lines, '\n' ∉ line) :
    let table := parseOsRelease (String.ofList (['\n'].intercalate lines))
    (∀ key value, Pairs.find? key table = some value ↔
      ∃ before behind, pairs = before ++ (key, value) :: behind ∧
        ∀ pair ∈ behind, pair.1 ≠ key) ∧
    (table.map Prod.fst).Pairwise (compare · · = .lt) := by
  intro table
  have htable : table = Pairs.ofList pairs := by
    show Pairs.ofList ((linesOf (String.ofList _).toList).filterMap releaseLine) = _
    rw [String.toList_ofList, filterMap_linesOf rfl releaseLine_dropReturn hlines, h.filterMap_eq]
  rw [htable]
  exact ⟨fun key value => Pairs.find?_ofList_eq_some_iff, Pairs.pairwise_ofList pairs⟩

/-- A quoted value with quotes and an equals sign in it, behind a line that says another value of
its key, a comment and a line that says nothing. -/
theorem release_file_read_repeated_key :
    let lines := ["NAME=a".toList, "# NAME=b".toList, "BROKEN".toList, "\tNAME = 'c'=\"' \r".toList]
    ReleaseLines [("NAME", "a"), ("NAME", "c'=\"")] lines ∧ (∀ line ∈ lines, '\n' ∉ line) ∧
      Pairs.find? "NAME" (parseOsRelease (String.ofList (['\n'].intercalate lines))) =
        some "c'=\"" := by
  intro lines
  have hkey : IsKey "NAME".toList := ⟨by decide, by decide, by decide⟩
  have hbare : WritesValue "a".toList "a".toList := by
    refine .bare (by decide) ?_
    rintro ⟨inner, h | h⟩ <;> cases h
  have hfirst : WritesPair "NAME".toList "a".toList "NAME=a".toList :=
    @WritesPair.line _ _ [] [] [] [] _ hkey hbare (by decide) (by decide) (by decide) (by decide)
  have hlast : WritesPair "NAME".toList "c'=\"".toList "\tNAME = 'c'=\"' \r".toList :=
    @WritesPair.line _ _ ['\t'] [' '] [' '] [' ', '\r'] _ hkey .single (by decide) (by decide)
      (by decide) (by decide)
  have hreads : ReleaseLines [("NAME", "a"), ("NAME", "c'=\"")] lines :=
    .pair hfirst (.nothing (@SaysNothing.comment [] (by decide) " NAME=b".toList)
      (.nothing (.unsplit (by decide)) (.pair hlast .nil)))
  have hlines : ∀ line ∈ lines, '\n' ∉ line := by decide
  exact ⟨hreads, hlines, ((release_file_read hreads hlines).1 _ _).mpr
    ⟨[("NAME", "a")], [], rfl, by simp⟩⟩

end Periscope
