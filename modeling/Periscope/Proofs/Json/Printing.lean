import Periscope.Json.Printer

/-!
# The characters of printed values

The printer appends to what was printed before. What it appends depends on the value only,
so the text of a compound value is put together from the texts of its parts.
-/

namespace Periscope.Json

/-- A character of a text as it is printed. -/
def escaped (c : Char) : List Char := if isPlain c then [c] else (escape c).toList

/-- A printed text with its quotes. -/
def quoted (s : String) : List Char := '"' :: (s.toList.flatMap escaped ++ ['"'])

/-- The characters of a value without blanks. -/
def characters (value : Json) : List Char := value.compact.toList

theorem writeChar_toList (out : String) (c : Char) :
    (writeChar out c).toList = out.toList ++ escaped c := by
  unfold writeChar escaped
  by_cases hplain : isPlain c = true
  · rw [if_pos hplain, if_pos hplain, String.toList_push]
  · rw [if_neg hplain, if_neg hplain, String.toList_append]

/-- A text is appended between its quotes. -/
theorem writeText_toList (out : String) (s : String) :
    (writeText out s).toList = out.toList ++ quoted s := by
  have hfold (cs : List Char) (out : String) :
      (cs.foldl writeChar out).toList = out.toList ++ cs.flatMap escaped := by
    induction cs generalizing out with
    | nil => simp
    | cons c rest ih =>
      rw [List.foldl_cons, ih, writeChar_toList, List.flatMap_cons, List.append_assoc]
  simp [writeText, quoted, String.foldl_eq_foldl_toList, hfold]

/-- The characters are what is printed behind nothing. -/
theorem characters_eq (value : Json) : value.characters = (value.write "").toList := rfl

mutual

/-- What is printed before stays as it is. -/
theorem write_toList (out : String) : (value : Json) →
    (value.write out).toList = out.toList ++ value.characters
  | .null => by simp [characters_eq, write]
  | .bool true => by simp [characters_eq, write]
  | .bool false => by simp [characters_eq, write]
  | .integer n => by simp [characters_eq, write]
  | .decimal x => by simp [characters_eq, write]
  | .text s => by simp [characters_eq, write, writeText_toList]
  | .array [] => by simp [characters_eq, write]
  | .array (item :: rest) => by
    rw [characters_eq (.array _)]
    simp [write, writeItems_toList, write_toList _ item]
  | .object [] => by simp [characters_eq, write]
  | .object ((name, value) :: rest) => by
    rw [characters_eq (.object _)]
    simp [write, writeMembers_toList, write_toList _ value, writeText_toList]

/-- Each further item stands behind a comma. -/
theorem writeItems_toList (out : String) : (items : List Json) →
    (writeItems out items).toList = out.toList ++ items.flatMap fun item => ',' :: item.characters
  | [] => by simp [writeItems]
  | item :: rest => by simp [writeItems, writeItems_toList, write_toList _ item]

/-- Each further member stands behind a comma, its name before a colon. -/
theorem writeMembers_toList (out : String) : (members : List (String × Json)) →
    (writeMembers out members).toList = out.toList ++ members.flatMap fun member =>
      ',' :: (quoted member.1 ++ ':' :: member.2.characters)
  | [] => by simp [writeMembers]
  | (name, value) :: rest => by
    simp [writeMembers, writeMembers_toList, write_toList _ value, writeText_toList]

end

/-- The characters of a text. -/
theorem characters_text (s : String) : characters (.text s) = quoted s := by
  simp [characters_eq, write, writeText_toList]

/-- The characters of an empty array. -/
theorem characters_emptyArray : characters (.array []) = ['[', ']'] := by
  simp [characters_eq, write]

/-- The characters of an array. -/
theorem characters_array (item : Json) (rest : List Json) :
    characters (.array (item :: rest)) =
      '[' :: (item.characters ++ (rest.flatMap (fun item => ',' :: item.characters) ++ [']'])) := by
  rw [characters_eq]
  simp [write, writeItems_toList, write_toList]

/-- The characters of an object. -/
theorem characters_object (name : String) (value : Json) (rest : List (String × Json)) :
    characters (.object ((name, value) :: rest)) =
      '\x7b' :: (quoted name ++ ':' :: (value.characters ++
        (rest.flatMap (fun member => ',' :: (quoted member.1 ++ ':' :: member.2.characters)) ++
          ['\x7d']))) := by
  rw [characters_eq]
  simp [write, writeMembers_toList, write_toList, writeText_toList]

end Periscope.Json
