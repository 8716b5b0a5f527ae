import Periscope.Proofs.Json.Integer

/-!
# Whatever is a value is skipped

A member that no field asks for is passed over with its value, and this value may be anything
that the grammar allows: brackets may be nested deeper than in a kept value, numbers may be
greater than any double and texts may hold halves of escape pairs.
-/

namespace Periscope.Json

section Numbers

variable {digits fraction power text : List Char} {rest : Input}

/-- Digits are dropped up to what is no digit. -/
private theorem dropDigits_digits (hdigits : ∀ c ∈ digits, c.isDigit = true) (dropped : Nat)
    (hrest : startsWithDigit rest = false) :
    (dropDigits dropped (digits.map some ++ rest)).2 = rest := by
  induction digits generalizing dropped with
  | nil => rw [List.map_nil, List.nil_append, dropDigits_none dropped hrest]
  | cons c digits ih =>
    obtain ⟨hc, hdigits⟩ := List.forall_mem_cons.mp hdigits
    have hdigit : (digit? (some c)).isSome = true := by rw [digit?_of_isDigit hc]; rfl
    rw [List.map_cons, List.cons_append, dropDigits, if_pos hdigit]
    exact ih hdigits (dropped + 1)

private theorem Digits.exists_cons (h : Digits digits) :
    ∃ c others, digits = c :: others ∧ c.isDigit = true := by
  obtain ⟨c, others, rfl⟩ := List.exists_cons_of_ne_nil h.1
  exact ⟨c, others, rfl, h.2 c List.mem_cons_self⟩

private theorem skipDigits_digits (h : Digits digits) (hrest : startsWithDigit rest = false) :
    skipDigits (digits.map some ++ rest) = .ok rest := by
  have hstart : startsWithDigit (digits.map some ++ rest) = true := by
    obtain ⟨c, others, rfl, hc⟩ := h.exists_cons
    simp [startsWithDigit, digit?_of_isDigit hc]
  rw [skipDigits, if_pos hstart, dropDigits_digits h.2 0 hrest]

/-- A power of ten is dropped, whether there is one or not. -/
private theorem skipPower_power (h : IsPower power) (hrest : Follows rest) :
    skipPower (power.map some ++ rest) = .ok rest := by
  cases h with
  | none =>
    rcases hrest.cases with rfl | ⟨c, others, rfl, hc⟩
    · rfl
    · simp only [List.mem_cons, List.not_mem_nil, or_false] at hc
      rcases hc with rfl | rfl | rfl | rfl | rfl | rfl | rfl <;> rfl
  | @letter letter sign digits hletter hsign hdigits =>
    have hskip := skipDigits_digits hdigits hrest.startsWithDigit
    rcases hsign with rfl | rfl | rfl
    · -- Without a sign the first digit follows the letter, and it is not taken for one.
      obtain ⟨c, others, rfl, hc⟩ := hdigits.exists_cons
      have hplus : c ≠ '+' := ne_of_isDigit hc rfl
      have hminus : c ≠ '-' := ne_of_isDigit hc rfl
      rcases hletter with rfl | rfl
      all_goals
        unfold skipPower
        split <;> simp_all
    · rcases hletter with rfl | rfl <;> exact hskip
    · rcases hletter with rfl | rfl <;> exact hskip

/-- A power of ten goes on neither with a digit nor with a point. -/
private theorem IsPower.stops (h : IsPower power) (hrest : Follows rest) :
    startsWithDigit (power.map some ++ rest) = false ∧
      ∀ others, power.map some ++ rest ≠ some '.' :: others := by
  cases h with
  | none =>
    refine ⟨hrest.startsWithDigit, ?_⟩
    rcases hrest.cases with rfl | ⟨c, others, rfl, hc⟩
    · simp
    · intro others heq
      obtain ⟨hpoint, _⟩ : c = '.' ∧ _ := by simpa using heq
      subst hpoint
      exact absurd hc (by decide)
  | letter hletter _ _ =>
    rcases hletter with rfl | rfl
    · exact ⟨rfl, by simp⟩
    · exact ⟨rfl, by simp⟩

/-- What follows the digits before the point is dropped. -/
private theorem skipBehindWhole_fraction (hfraction : IsFraction fraction) (hpower : IsPower power)
    (hrest : Follows rest) :
    skipBehindWhole (fraction.map some ++ (power.map some ++ rest)) = .ok rest := by
  have hskip := skipPower_power hpower hrest
  obtain ⟨hdigit, hpoint⟩ := hpower.stops hrest
  cases hfraction with
  | none =>
    rw [List.map_nil, List.nil_append, skipBehindWhole]
    · exact hskip
    · exact hpoint
  | @point digits hdigits =>
    have hwhole : skipBehindWhole (some '.' :: (digits.map some ++ (power.map some ++ rest))) =
        skipDigits (digits.map some ++ (power.map some ++ rest)) >>= skipPower := rfl
    rw [List.map_cons, List.cons_append, hwhole, skipDigits_digits hdigits hdigit]
    exact hskip

private theorem startsWithDigit_behindWhole (hfraction : IsFraction fraction)
    (hpower : IsPower power) (hrest : Follows rest) :
    startsWithDigit (fraction.map some ++ (power.map some ++ rest)) = false := by
  cases hfraction with
  | none => exact (hpower.stops hrest).1
  | point _ => rfl

/-- The sign of a number is dropped. -/
private theorem skipNumber_sign {sign : List Char} (hsign : sign = [] ∨ sign = ['-']) {c : Char}
    (hc : c.isDigit = true) (others : Input) :
    skipNumber (sign.map some ++ some c :: others) = skipNumber (some c :: others) := by
  have hminus : c ≠ '-' := ne_of_isDigit hc rfl
  rcases hsign with rfl | rfl
  · rfl
  · simp [skipNumber, hminus]

/-- A number of any size is dropped. -/
private theorem skipNumber_number (h : IsNumber text) (hrest : Follows rest) :
    skipNumber (text.map some ++ rest) = .ok rest := by
  cases h with
  | @parts sign whole fraction power hsign hwhole hzero hfraction hpower =>
    have hbehind := skipBehindWhole_fraction hfraction hpower hrest
    have hdigit := startsWithDigit_behindWhole hfraction hpower hrest
    have hskip := skipDigits_digits hwhole hdigit
    obtain ⟨c, others, rfl, hc⟩ := hwhole.exists_cons
    have hminus : c ≠ '-' := ne_of_isDigit hc rfl
    simp only [List.map_append, List.map_cons, List.append_assoc, List.cons_append] at hskip ⊢
    rw [skipNumber_sign hsign hc]
    generalize fraction.map some ++ (power.map some ++ rest) = behind at hbehind hdigit hskip ⊢
    by_cases hfirst : c = '0'
    · subst hfirst
      obtain rfl : others = [] := by simpa using hzero rfl
      simp [skipNumber, hdigit, hbehind]
    · simp [skipNumber, hminus, hfirst, hskip, hbehind, bind, Except.bind]

/-- A number begins with a minus or a digit. -/
private theorem IsNumber.exists_start (h : IsNumber text) :
    ∃ c others, text = c :: others ∧ start? (some c) = some .number := by
  cases h with
  | @parts sign whole fraction power hsign hwhole _ _ _ =>
    rcases hsign with rfl | rfl
    · obtain ⟨c, others, rfl, hc⟩ := hwhole.exists_cons
      exact ⟨c, _, rfl, start?_of_isDigit hc⟩
    · exact ⟨'-', _, rfl, rfl⟩

end Numbers

section Nesting

variable {text : List Char} {parts : List Unit} {bound : Input}

/-- What is not a bracket is dropped like a value alone. -/
private theorem skipNested_scalar {c : Char} {others : List Char} (start : Start) (s : Symbol)
    (bound : Input) (hstart : start? (some c) = some start)
    (hscalar : start ≠ .bracket ∧ start ≠ .brace)
    (hskip : ∀ rest, Follows rest →
      skipScalar start (some c :: (others.map some ++ rest)) = .ok ((), rest)) :
    Reads (skipNested (s :: bound)) () (c :: others) := by
  have hbegins : (start? (some c)).isSome = true := by rw [hstart]; rfl
  have hspace := (start_outside hbegins).1
  refine .of_takes ⟨c, others, rfl, hbegins⟩ (ignoresBlanks_peekStart.bind _) fun rest hrest => ?_
  have hread := hskip rest hrest
  rw [skipNested, List.map_cons, List.cons_append, bind_of_ok (peekStart_cons hspace hstart)]
  cases start <;> first | exact hread | simp at hscalar

/-- An array is dropped if its items are. -/
private theorem skipNested_array {s : Symbol}
    (h : Bracketed (Reads (skipNested bound)) '[' ']' parts text) :
    Reads (skipNested (s :: bound)) () text := by
  obtain ⟨behind, rfl, htaken⟩ := readItems_bracketed h
  refine .of_takes ⟨'[', _, rfl, by decide⟩ (ignoresBlanks_peekStart.bind _) fun rest _ => ?_
  have hstart : start? (some '[') = some .bracket := rfl
  rw [skipNested, List.map_cons, List.cons_append, bind_of_ok (peekStart_cons (by decide) hstart)]
  exact (bind_of_ok advance_cons).trans ((bind_of_ok (htaken rest)).trans rfl)

/-- An object is dropped if the values of its members are. -/
private theorem skipNested_object {s : Symbol}
    (h : Bracketed (fun _ member => Member IsText (Reads (skipNested bound) ()) member)
      '\x7b' '\x7d' parts text) :
    Reads (skipNested (s :: bound)) () text := by
  have hmember (part : List Char) (hpart : Member IsText (Reads (skipNested bound) ()) part) :
      Reads (do openName; skipQuoted; readColon; skipNested bound) () part := by
    cases hpart with
    | colon hname hbefore hafter hvalue =>
      exact .member (skipQuoted_text hname) rfl hbefore hafter hvalue
  -- Nothing is kept of the members, so nothing needs to be known between them.
  obtain ⟨behind, last, rfl, _, htaken⟩ :=
    readMembers_bracketed (fun _ => do skipQuoted; readColon; skipNested bound) (fun _ _ => True)
      (fun _ _ _ part _ hpart => ⟨(), hmember part hpart, trivial⟩) () trivial h
  refine .of_takes ⟨'\x7b', _, rfl, by decide⟩ (ignoresBlanks_peekStart.bind _) fun rest _ => ?_
  have hstart : start? (some '\x7b') = some .brace := rfl
  rw [skipNested, List.map_cons, List.cons_append, bind_of_ok (peekStart_cons (by decide) hstart)]
  exact (bind_of_ok advance_cons).trans (htaken rest)

private theorem WellFormed.ne_nil (h : WellFormed text) : text ≠ [] := by
  cases h with
  | null => decide
  | bool b => cases b <;> decide
  | number hnumber =>
    obtain ⟨c, others, rfl, _⟩ := hnumber.exists_start
    simp
  | text _ => simp
  | array h => cases h <;> simp
  | object h => cases h <;> simp

/-- A value is dropped if the bound is long enough. -/
theorem skipNested_wellFormed (h : WellFormed text) (bound : Input)
    (hbound : text.length ≤ bound.length) : Reads (skipNested bound) () text := by
  -- Each bracket takes one symbol of the bound, and what it holds is shorter than the whole.
  induction bound generalizing text with
  | nil => exact absurd (List.length_eq_zero_iff.mp (Nat.le_zero.mp hbound)) h.ne_nil
  | cons s bound ih =>
    rw [List.length_cons] at hbound
    cases h with
    | null => exact skipNested_scalar .null s bound rfl (by decide) fun rest _ => rfl
    | bool b =>
      cases b with
      | false => exact skipNested_scalar .false s bound rfl (by decide) fun rest _ => rfl
      | true => exact skipNested_scalar .true s bound rfl (by decide) fun rest _ => rfl
    | number hnumber =>
      obtain ⟨c, others, rfl, hstart⟩ := hnumber.exists_start
      refine skipNested_scalar .number s bound hstart (by decide) fun rest hrest => ?_
      have hskip := skipNumber_number hnumber hrest
      rw [List.map_cons, List.cons_append] at hskip
      simp [skipScalar, hskip, bind, Except.bind]
    | text hbody =>
      refine skipNested_scalar .quote s bound rfl (by decide) fun rest _ => ?_
      rw [List.map_append, List.append_assoc]
      exact (bind_of_ok advance_cons).trans (skipQuoted_text hbody rest)
    | array h => exact skipNested_array (h.imp fun _ item hlength hitem => ih hitem (by omega))
    | object h =>
      refine skipNested_object (h.imp fun _ member hlength hmember => ?_)
      cases hmember with
      | colon hname hbefore hafter hvalue =>
        refine .colon hname hbefore hafter (ih hvalue ?_)
        simp only [List.length_cons, List.length_append] at hlength
        omega

/-- A value is dropped, whatever it is. -/
theorem skipValue_wellFormed (h : WellFormed text) : Reads skipValue () text where
  begins := (skipNested_wellFormed h (text.map some) (by simp)).begins
  behindBlanks blanks rest hblanks hrest := by
    have hbound : text.length ≤ (blanks.map some ++ (text.map some ++ rest)).length := by
      simp only [List.length_append, List.length_map]
      omega
    exact (skipNested_wellFormed h _ hbound).behindBlanks blanks rest hblanks hrest

/-- A member that no field has the name of changes nothing. -/
theorem readMember_unknown {δ : Type} {fields : List (Decoder.Field δ)} {name : String}
    (hfield : fields.find? (·.name = name) = none) (depth : Nat) (draft : δ)
    (h : Member (SpellsText · name.toList) WellFormed text) :
    Reads (do openName; Decoder.readMember fields depth draft) draft text := by
  cases h with
  | colon hname hbefore hafter hvalue =>
    have hskip := (skipValue_wellFormed hvalue).map fun _ => draft
    refine .member (readQuoted_spelled hname) ?_ hbefore hafter hskip
    rw [hfield]

end Nesting

end Periscope.Json
