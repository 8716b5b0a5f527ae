import Periscope.Proofs.Json.Reading
import Periscope.Proofs.Json.Spelled

/-!
# Documents with one member

An object whose one member tells by its name how its value is read is taken in one form only: the
name in any spelling, blanks between the parts, and nothing else. A document is such an object with
blanks around it.
-/

namespace Periscope.Json

variable {α β : Type} {input rest : Input}

/-! ## Taking readers apart -/

/-- Two readers that came through have come through one after the other. -/
theorem of_bind {first : Reader α} {second : α → Reader β} {y : β}
    (h : (first >>= second) input = .ok (y, rest)) :
    ∃ x behind, first input = .ok (x, behind) ∧ second x behind = .ok (y, rest) := by
  cases hfirst : first input with
  | error fault =>
    simp only [bind, StateT.bind, hfirst, Except.bind] at h
    cases h
  | ok found =>
    obtain ⟨x, behind⟩ := found
    rw [bind_of_ok hfirst] at h
    exact ⟨x, behind, rfl, h⟩

/-- An object with one member of a name, whose value is taken by a reader. -/
inductive OneMember (name : String) (value : Reader α) : Input → α → Input → Prop where
  /-- Blanks may stand in front of the braces, the name and the colon. -/
  | mk {brace quote colon close spelling : List Char} {inside rest : Input} {x : α}
      (hbrace : Blank brace) (hquote : Blank quote) (hcolon : Blank colon) (hclose : Blank close)
      (hname : SpellsText spelling name.toList)
      (hvalue : value inside = .ok (x, close.map some ++ some '\x7d' :: rest)) :
      OneMember name value
        (brace.map some ++ some '\x7b' :: (quote.map some ++ some '"' ::
          (spelling.map some ++ some '"' :: (colon.map some ++ some ':' :: inside)))) x rest

end Periscope.Json
