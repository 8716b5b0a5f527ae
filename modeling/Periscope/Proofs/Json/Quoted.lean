import Periscope.Proofs.Json.Printing
import Periscope.Proofs.Json.Spelling

/-!
# Printed texts are read back

Printing chooses one way to write each character, and the reader takes any. So a printed text
is read back whatever stands behind its closing quote.
-/

namespace Periscope.Json

private theorem hexDigit_mem : ∀ n < 16, (hexDigit n, n) ∈ hexDigits := by decide

/-- A printed control character is one unit. -/
private theorem spells_control {c : Char} (hc : c.toNat < 0x20) :
    Spells ("\\u00" ++ String.ofList [hexDigit (c.toNat / 16), hexDigit (c.toNat % 16)]).toList
      c := by
  have hunit := SpellsUnit.digits (hexDigit_mem 0 (by decide)) (hexDigit_mem 0 (by decide))
    (hexDigit_mem (c.toNat / 16) (by omega)) (hexDigit_mem (c.toNat % 16) (by omega))
  have hvalue : 0x1000 * 0 + 0x100 * 0 + 0x10 * (c.toNat / 16) + c.toNat % 16 = c.toNat := by omega
  rw [hvalue] at hunit
  simp only [String.toList_append, String.toList_ofList]
  exact .unit hunit

/-- Printing a character is one way to write it. -/
theorem spells_escaped (c : Char) : Spells (escaped c) c := by
  by_cases hplain : isPlain c = true
  · rw [escaped, if_pos hplain]
    exact .plain hplain
  · rw [escaped, if_neg hplain]
    unfold escape
    split
    · subst c; exact .letter (by decide)
    split
    · subst c; exact .letter (by decide)
    split
    · subst c; exact .letter (by decide)
    split
    · subst c; exact .letter (by decide)
    split
    · subst c; exact .letter (by decide)
    split
    · subst c; exact .letter (by decide)
    split
    · subst c; exact .letter (by decide)
    split
    · next hcontrol => exact spells_control hcontrol
    · next hquote hbackslash _ _ _ _ _ hcontrol =>
      exact absurd (by simp [isPlain, hquote, hbackslash]; omega) hplain

/-- Printing a text is one way to write it. -/
theorem spellsText_escaped (cs : List Char) : SpellsText (cs.flatMap escaped) cs := by
  induction cs with
  | nil => exact .nil
  | cons c cs ih => exact .cons (spells_escaped c) ih

/-- A printed text is read back behind its opening quote. -/
theorem readQuoted_quoted (s : String) (rest : Input) :
    readQuoted ((s.toList.flatMap escaped).map some ++ some '"' :: rest) = .ok (s, rest) :=
  readQuoted_spelled (spellsText_escaped s.toList) rest

end Periscope.Json
