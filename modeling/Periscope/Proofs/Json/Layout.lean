import Periscope.Proofs.Json.Grammar

/-!
# How a value may be laid out

A value may be written with any blanks between its parts, and each character of its texts in any of
its spellings; its numbers are written as they are printed. Both forms of printing, without blanks
and with one part a line, are ways to write a value.
-/

namespace Periscope.Json

mutual

/-- A text is one way to write a value. -/
inductive Writes : Json → List Char → Prop where
  /-- `null`. -/
  | null : Writes .null "null".toList
  /-- A truth value. -/
  | bool (b : Bool) : Writes (.bool b) (if b then "true".toList else "false".toList)
  /-- The digits of an integer, behind a minus if it is negative. -/
  | integer (n : Int) : Writes (.integer n) (Json.integer n).characters
  /-- The digits of a double. -/
  | decimal (x : Float) : Writes (.decimal x) (Json.decimal x).characters
  /-- A text between quotes. -/
  | text {s : String} {text : List Char} (h : WritesText s text) : Writes (.text s) text
  /-- Items between brackets. -/
  | array {items : List Json} {text : List Char}
      (h : Bracketed (fun item part => Writes item part) '[' ']' items text) :
      Writes (.array items) text
  /-- Members between braces, in their order. -/
  | object {members : List (String × Json)} {text : List Char}
      (h : Bracketed (fun member part => WritesMember member part) '\x7b' '\x7d' members text) :
      Writes (.object members) text

/-- A text is one way to write a member. -/
inductive WritesMember : String × Json → List Char → Prop where
  /-- A colon stands between the name and the value. -/
  | colon {name : String} {value : Json} {body before after text : List Char}
      (hname : SpellsText body name.toList) (hbefore : Blank before) (hafter : Blank after)
      (hvalue : Writes value text) :
      WritesMember (name, value) ('"' :: (body ++ '"' :: (before ++ ':' :: (after ++ text))))

end

/-- A printed name, a colon and a written value are a written member. -/
theorem WritesMember.printed (name : String) {value : Json} {blanks text : List Char}
    (hblanks : Blank blanks) (hvalue : Writes value text) :
    WritesMember (name, value) (quoted name ++ ':' :: (blanks ++ text)) := by
  have hmember : WritesMember (name, value) ('"' :: (name.toList.flatMap escaped ++
      '"' :: ([] ++ ':' :: (blanks ++ text)))) :=
    .colon (spellsText_escaped name.toList) .nil hblanks hvalue
  simpa [quoted] using hmember

mutual

/-- What is printed without blanks is one way to write a value. -/
theorem writes_characters : (value : Json) → Writes value value.characters
  | .null => .null
  | .bool true => .bool true
  | .bool false => .bool false
  | .integer n => .integer n
  | .decimal x => .decimal x
  | .text s => .text (writesText_characters s)
  | .array items => by
    have h := bracketed_array id (writes_items items)
    rw [List.map_id] at h
    exact .array h
  | .object members => by
    have h := bracketed_object Prod.fst Prod.snd (writes_members members)
    rw [List.map_id'' (fun _ => rfl)] at h
    exact .object h

theorem writes_items : (items : List Json) → ∀ item ∈ items, Writes item item.characters
  | [] => List.forall_mem_nil _
  | item :: items => List.forall_mem_cons.mpr ⟨writes_characters item, writes_items items⟩

theorem writes_members : (members : List (String × Json)) → ∀ member ∈ members,
    WritesMember member (quoted member.1 ++ ':' :: member.2.characters)
  | [] => List.forall_mem_nil _
  | (_, value) :: members =>
    List.forall_mem_cons.mpr ⟨.printed _ .nil (writes_characters value), writes_members members⟩

end

section Pretty

variable {α : Type} {P : α → List Char → Prop} {x : α} {xs : List α}
  {before text others after : List Char}

/-- Further parts, each behind a comma: in front of them may stand any first part. -/
def FurtherParts (P : α → List Char → Prop) (xs : List α) (others : List Char) : Prop :=
  ∀ x before text after, Blank before → P x text → Blank after →
    Parts P (x :: xs) (before ++ (text ++ (others ++ after)))

theorem FurtherParts.nil : FurtherParts P [] [] :=
  fun _ _ _ _ hbefore hx hafter => .last hbefore hx hafter

theorem FurtherParts.cons (hbefore : Blank before) (hx : P x text)
    (hothers : FurtherParts P xs others) :
    FurtherParts P (x :: xs) (',' :: (before ++ (text ++ others))) := by
  intro first front firstText after hfront hfirst hafter
  have hmore := Parts.more hfront hfirst .nil (hothers x before text after hbefore hx hafter)
  simpa using hmore

theorem FurtherParts.bracketed (hothers : FurtherParts P xs others) (opening closing : Char)
    (hbefore : Blank before) (hx : P x text) (hafter : Blank after) :
    Bracketed P opening closing (x :: xs)
      (opening :: (before ++ (text ++ (others ++ (after ++ [closing]))))) := by
  have hbracketed : Bracketed P opening closing (x :: xs) _ :=
    .parts (hothers x before text after hbefore hx hafter)
  simpa using hbracketed

/-- A line starts with blanks. -/
theorem blank_indent (level : Nat) : Blank (indent level).toList := by
  intro c hc
  simp only [indent, String.toList_append, String.toList_ofList, List.mem_append] at hc
  rcases hc with hline | hblank
  · obtain rfl : c = '\n' := by simpa using hline
    decide
  · obtain rfl := List.eq_of_mem_replicate hblank
    decide

theorem blank_space : Blank [' '] := by simp [Blank]

mutual

/-- What is printed with one part a line is one way to write a value. -/
theorem writePretty_writes (level : Nat) (out : String) : (value : Json) →
    ∃ text, (writePretty level out value).toList = out.toList ++ text ∧ Writes value text
  | .null => ⟨_, write_toList out .null, writes_characters _⟩
  | .bool b => ⟨_, write_toList out (.bool b), writes_characters _⟩
  | .integer n => ⟨_, write_toList out (.integer n), writes_characters _⟩
  | .decimal x => ⟨_, write_toList out (.decimal x), writes_characters _⟩
  | .text s => ⟨_, write_toList out (.text s), writes_characters _⟩
  | .array [] => ⟨_, write_toList out (.array []), writes_characters _⟩
  | .array (item :: rest) => by
    obtain ⟨text, htext, hitem⟩ :=
      writePretty_writes (level + 1) (out ++ "[" ++ indent (level + 1)) item
    obtain ⟨others, hothers, hrest⟩ := writePrettyItems_writes level
      (writePretty (level + 1) (out ++ "[" ++ indent (level + 1)) item) rest
    have hitems := hrest.bracketed '[' ']' (blank_indent (level + 1)) hitem (blank_indent level)
    refine ⟨_, ?_, .array hitems⟩
    rw [writePretty, String.toList_append, String.toList_append, hothers, htext]
    simp
  | .object [] => ⟨_, write_toList out (.object []), writes_characters _⟩
  | .object ((name, value) :: rest) => by
    obtain ⟨text, htext, hvalue⟩ := writePretty_writes (level + 1)
      (writeText (out ++ "\x7b" ++ indent (level + 1)) name ++ ": ") value
    obtain ⟨others, hothers, hrest⟩ := writePrettyMembers_writes level
      (writePretty (level + 1)
        (writeText (out ++ "\x7b" ++ indent (level + 1)) name ++ ": ") value) rest
    have hmember := WritesMember.printed name blank_space hvalue
    have hmembers :=
      hrest.bracketed '\x7b' '\x7d' (blank_indent (level + 1)) hmember (blank_indent level)
    refine ⟨_, ?_, .object hmembers⟩
    rw [writePretty, String.toList_append, String.toList_append, hothers, htext,
      String.toList_append, writeText_toList]
    simp

theorem writePrettyItems_writes (level : Nat) (out : String) : (items : List Json) →
    ∃ others, (writePrettyItems level out items).toList = out.toList ++ others ∧
      FurtherParts (fun item part => Writes item part) items others
  | [] => ⟨[], by simp [writePrettyItems], .nil⟩
  | item :: rest => by
    obtain ⟨text, htext, hitem⟩ :=
      writePretty_writes (level + 1) (out ++ "," ++ indent (level + 1)) item
    obtain ⟨others, hothers, hrest⟩ := writePrettyItems_writes level
      (writePretty (level + 1) (out ++ "," ++ indent (level + 1)) item) rest
    refine ⟨_, ?_, hrest.cons (blank_indent (level + 1)) hitem⟩
    rw [writePrettyItems, hothers, htext]
    simp

theorem writePrettyMembers_writes (level : Nat) (out : String) :
    (members : List (String × Json)) →
    ∃ others, (writePrettyMembers level out members).toList = out.toList ++ others ∧
      FurtherParts (fun member part => WritesMember member part) members others
  | [] => ⟨[], by simp [writePrettyMembers], .nil⟩
  | (name, value) :: rest => by
    obtain ⟨text, htext, hvalue⟩ := writePretty_writes (level + 1)
      (writeText (out ++ "," ++ indent (level + 1)) name ++ ": ") value
    obtain ⟨others, hothers, hrest⟩ := writePrettyMembers_writes level
      (writePretty (level + 1) (writeText (out ++ "," ++ indent (level + 1)) name ++ ": ") value)
      rest
    have hmember := WritesMember.printed name blank_space hvalue
    refine ⟨_, ?_, hrest.cons (blank_indent (level + 1)) hmember⟩
    rw [writePrettyMembers, hothers, htext, String.toList_append, writeText_toList]
    simp

end

theorem writes_pretty (value : Json) : Writes value value.pretty.toList := by
  obtain ⟨text, htext, hwrites⟩ := writePretty_writes 0 "" value
  have hsame : value.pretty.toList = text := by simpa [pretty] using htext
  exact hsame ▸ hwrites

end Pretty

end Periscope.Json
