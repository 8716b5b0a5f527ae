import Periscope.Proofs.Text.Numeral
import Periscope.Target

/-!
# What a target is read from

The last colon of a text tells the id from the pid, so an id may have colons of its own. The pid is
spelled as any signed number is, and a target may be written in as many ways as its pid.
-/

namespace Periscope

namespace Target

section Split

variable {separator : Char} {s before behind : List Char}

/-- A separator that others follow only in front of it is the last one. -/
theorem splitLast_append (h : separator ∉ behind) :
    splitLast separator (before ++ separator :: behind) = some (before, behind) := by
  have hall : ∀ c ∈ behind.reverse, decide (c ≠ separator) = true := fun c hc =>
    decide_eq_true fun heq => h (heq ▸ List.mem_reverse.mp hc)
  have hreverse : (before ++ separator :: behind).reverse =
      behind.reverse ++ separator :: before.reverse := by simp
  have hbehind : (before ++ separator :: behind).reverse.takeWhile (· ≠ separator) =
      behind.reverse := by
    rw [hreverse, List.takeWhile_append_of_pos hall, List.takeWhile_cons_of_neg (by simp),
      List.append_nil]
  have hrest : (before ++ separator :: behind).reverse.dropWhile (· ≠ separator) =
      separator :: before.reverse := by
    rw [hreverse, List.dropWhile_append_of_pos hall, List.dropWhile_cons_of_neg (by simp)]
  simp only [splitLast, hbehind, hrest, List.reverse_reverse]

/-- A text is split at a separator behind which there is no other. -/
theorem splitLast_eq_some_iff :
    splitLast separator s = some (before, behind) ↔
      s = before ++ separator :: behind ∧ separator ∉ behind :=
  ⟨splitLast_eq_some, fun ⟨hs, hbehind⟩ => hs ▸ splitLast_append hbehind⟩

end Split

/-- An id and a numeral are joined to the text of a target. The numeral has no colon, so the id
takes all of them but the last. -/
structure Joins (s id numeral : String) : Prop where
  /-- The text is the id, a colon and the numeral. -/
  text : s = id ++ ":" ++ numeral
  /-- The id is not empty. -/
  named : id ≠ ""
  /-- That colon is the last one. -/
  last : ':' ∉ numeral.toList

theorem joins_iff {s id numeral : String} :
    Joins s id numeral ↔
      splitLast ':' s.toList = some (id.toList, numeral.toList) ∧ id.toList ≠ [] := by
  have htext : s = id ++ ":" ++ numeral ↔ s.toList = id.toList ++ ':' :: numeral.toList := by
    rw [← String.toList_inj, String.toList_append, String.toList_append, List.append_assoc]
    rfl
  have hnamed : id.toList ≠ [] ↔ id ≠ "" := not_congr String.toList_eq_nil_iff
  rw [splitLast_eq_some_iff, hnamed, ← htext]
  exact ⟨fun h => ⟨⟨h.text, h.last⟩, h.named⟩,
    fun ⟨⟨htext, hlast⟩, hnamed⟩ => ⟨htext, hnamed, hlast⟩⟩

/-- Reading a text that an id and a numeral are joined to is reading the numeral. -/
theorem Joins.parse_eq {s id numeral : String} (h : Joins s id numeral) :
    parse s = match Text.readInt32 numeral with
      | .ok pid => .ok ⟨id, pid⟩
      | .error cause => .error (.targetPid s cause) := by
  obtain ⟨hsplit, hnamed⟩ := joins_iff.mp h
  cases hread : Text.readInt32 numeral <;>
    simp only [parse, hsplit, if_neg hnamed, String.ofList_toList, hread]

/-- What a target is read from joins its id and a numeral. -/
theorem exists_joins_of_parse {s : String} {target : Target} (h : parse s = .ok target) :
    ∃ numeral, Joins s target.containerId numeral := by
  unfold parse at h
  split at h
  · cases h
  · next id numeral hsplit =>
    split at h
    · cases h
    · next hnamed =>
      split at h
      · obtain rfl := Except.ok.inj h
        refine ⟨String.ofList numeral, joins_iff.mpr ?_⟩
        rw [String.toList_ofList, String.toList_ofList]
        exact ⟨hsplit, hnamed⟩
      · cases h

/-- A target is read exactly from its id and a spelling of its pid. -/
theorem parse_eq_ok_iff {s : String} {target : Target} :
    parse s = .ok target ↔
      ∃ numeral, Joins s target.containerId numeral ∧
        SpellsInteger numeral.toList target.pid.toInt := by
  have hread : ∀ numeral, Joins s target.containerId numeral →
      (parse s = .ok target ↔ SpellsInteger numeral.toList target.pid.toInt) := by
    intro numeral hjoins
    obtain ⟨id, pid⟩ := target
    rw [hjoins.parse_eq, ← readInt32_eq_ok_iff]
    cases Text.readInt32 numeral <;> simp
  constructor
  · intro h
    obtain ⟨numeral, hjoins⟩ := exists_joins_of_parse h
    exact ⟨numeral, hjoins, (hread numeral hjoins).mp h⟩
  · rintro ⟨numeral, hjoins, hspells⟩
    exact (hread numeral hjoins).mpr hspells

/-- What spells an integer has no colon. -/
theorem not_mem_of_spellsInteger {cs : List Char} {z : Int} (h : SpellsInteger cs z) :
    ':' ∉ cs := by
  intro hmem
  cases h with
  | number hspells =>
    rcases dropPlus_eq_or cs with hplus | hplus
    · exact absurd (hspells.digits ':' (by rwa [hplus])) (by decide)
    · rw [hplus, List.mem_cons] at hmem
      exact absurd (hspells.digits ':' (hmem.resolve_left (by decide))) (by decide)
  | negative _ hdigits =>
    exact absurd (hdigits ':' ((List.mem_cons.mp hmem).resolve_left (by decide))) (by decide)

/-- An id and a spelling are joined by a colon in between. -/
theorem joins_of_spellsInteger {id numeral : String} {z : Int} (hnamed : id ≠ "")
    (h : SpellsInteger numeral.toList z) : Joins (id ++ ":" ++ numeral) id numeral :=
  ⟨rfl, hnamed, not_mem_of_spellsInteger h⟩

/-- A target is read exactly if behind the last colon an integer in the range of a pid is
spelled. -/
theorem exists_parse_eq_ok_iff {s : String} :
    (∃ target, parse s = .ok target) ↔
      ∃ id numeral z, Joins s id numeral ∧ SpellsInteger numeral.toList z ∧
        -2147483648 ≤ z ∧ z < 2147483648 := by
  constructor
  · rintro ⟨target, h⟩
    obtain ⟨numeral, hjoins, hspells⟩ := parse_eq_ok_iff.mp h
    exact ⟨_, _, _, hjoins, hspells, target.pid.le_toInt, target.pid.toInt_lt⟩
  · rintro ⟨id, numeral, z, hjoins, hspells, hlow, hhigh⟩
    rw [← Int32.toInt_ofInt_of_le hlow hhigh] at hspells
    exact ⟨⟨id, Int32.ofInt z⟩, parse_eq_ok_iff.mpr ⟨numeral, hjoins, hspells⟩⟩

end Target

/-- **A target is read exactly from an id, a colon and a spelling of its pid.** The text is split at
its last colon. In front of it stands the id, which may have colons of its own but is not empty, and
behind it a decimal number in the range of a pid, perhaps with a sign; nothing else is accepted. So
what is printed as an id, a colon and a pid is read back, and what is accepted differs from that by
no more than a plus, zeros in front of the pid, or a minus in front of a zero. -/
theorem target_read_from_spellings :
    (∀ s target, Target.parse s = .ok target ↔
      ∃ numeral, Target.Joins s target.containerId numeral ∧
        SpellsInteger numeral.toList target.pid.toInt) ∧
      (∀ s, (∃ target, Target.parse s = .ok target) ↔
        ∃ id numeral z, Target.Joins s id numeral ∧ SpellsInteger numeral.toList z ∧
          -2147483648 ≤ z ∧ z < 2147483648) ∧
      (∀ id pid, id ≠ "" → Target.parse (id ++ ":" ++ toString pid) = .ok ⟨id, pid⟩) ∧
      ∀ s target, Target.parse s = .ok target ↔
        target.containerId ≠ "" ∧
          ∃ numeral, s = target.containerId ++ ":" ++ numeral ∧
            Respells numeral.toList target.pid.toInt := by
  refine ⟨fun _ _ => Target.parse_eq_ok_iff, fun _ => Target.exists_parse_eq_ok_iff,
    fun id pid hnamed => ?_, fun s target => ?_⟩
  · have hspells := spellsInteger_toString pid.toInt
    exact Target.parse_eq_ok_iff.mpr
      ⟨toString pid, Target.joins_of_spellsInteger hnamed hspells, hspells⟩
  · simp only [← spellsInteger_iff_respells]
    constructor
    · intro h
      obtain ⟨numeral, hjoins, hspells⟩ := Target.parse_eq_ok_iff.mp h
      exact ⟨hjoins.named, numeral, hjoins.text, hspells⟩
    · rintro ⟨hnamed, numeral, rfl, hspells⟩
      exact Target.parse_eq_ok_iff.mpr
        ⟨numeral, Target.joins_of_spellsInteger hnamed hspells, hspells⟩

/-- An id with a colon, whose pid is spelled in another way than it is printed. -/
theorem target_read_behind_last_colon :
    "a:b" ≠ "" ∧ Target.parse ("a:b" ++ ":" ++ toString (-7 : Int32)) = .ok ⟨"a:b", -7⟩ ∧
      Target.parse "a:b:-007" = .ok ⟨"a:b", -7⟩ := by
  obtain ⟨_, _, hprinted, hrespelled⟩ := target_read_from_spellings
  refine ⟨by decide, hprinted _ _ (by decide), (hrespelled _ _).mpr ⟨by decide, "-007", rfl, ?_⟩⟩
  exact Respells.minus 2 7

end Periscope
