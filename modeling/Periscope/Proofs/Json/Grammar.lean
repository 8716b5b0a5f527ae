import Periscope.Proofs.Json.Quoted

/-!
# What a document may look like

The grammar is told by the texts it allows, not by a reader. Arrays and objects share one form:
parts between brackets, separated by commas, with blanks around each part. What a part is stays
open, so the same form tells which texts are values at all and which stand for a given list. A
printed array or object has this form, without blanks.
-/

namespace Periscope.Json

variable {α : Type}

/-- Blanks, or nothing. -/
def Blank (cs : List Char) : Prop := ∀ c ∈ cs, c ∈ [' ', '\n', '\t', '\r']

theorem Blank.nil : Blank [] := by simp [Blank]

/-- Parts with blanks around them and commas between them. `P` tells which texts a part has. -/
inductive Parts (P : α → List Char → Prop) : List α → List Char → Prop where
  /-- No comma stands behind the last part. -/
  | last {x : α} {before text after : List Char} (hbefore : Blank before) (hx : P x text)
      (hafter : Blank after) : Parts P [x] (before ++ (text ++ after))
  /-- A comma stands in front of further parts. -/
  | more {x : α} {xs : List α} {before text after others : List Char} (hbefore : Blank before)
      (hx : P x text) (hafter : Blank after) (hxs : Parts P xs others) :
      Parts P (x :: xs) (before ++ (text ++ (after ++ ',' :: others)))

/-- Parts between brackets. -/
inductive Bracketed (P : α → List Char → Prop) (opening closing : Char) :
    List α → List Char → Prop where
  /-- There may be no part at all. -/
  | empty {blanks : List Char} (hblanks : Blank blanks) :
      Bracketed P opening closing [] (opening :: (blanks ++ [closing]))
  /-- There is at least one part. -/
  | parts {xs : List α} {inner : List Char} (hparts : Parts P xs inner) :
      Bracketed P opening closing xs (opening :: (inner ++ [closing]))

/-- A member of an object. `N` tells which names it may have and `V` which values. -/
inductive Member (N V : List Char → Prop) : List Char → Prop where
  /-- A colon stands between the name and the value. -/
  | colon {name before after value : List Char} (hname : N name) (hbefore : Blank before)
      (hafter : Blank after) (hvalue : V value) :
      Member N V ('"' :: (name ++ '"' :: (before ++ ':' :: (after ++ value))))

/-- At least one digit. -/
def Digits (cs : List Char) : Prop := cs ≠ [] ∧ ∀ c ∈ cs, c.isDigit = true

/-- What may follow the digits before the point. -/
inductive IsFraction : List Char → Prop where
  /-- Nothing. -/
  | none : IsFraction []
  /-- The point and the digits behind it. -/
  | point {digits : List Char} (hdigits : Digits digits) : IsFraction ('.' :: digits)

/-- What may follow the digits of a number. -/
inductive IsPower : List Char → Prop where
  /-- Nothing. -/
  | none : IsPower []
  /-- A power of ten, with or without its sign. -/
  | letter {letter : Char} {sign digits : List Char} (hletter : letter = 'e' ∨ letter = 'E')
      (hsign : sign = [] ∨ sign = ['+'] ∨ sign = ['-']) (hdigits : Digits digits) :
      IsPower (letter :: (sign ++ digits))

/-- A number of any size. -/
inductive IsNumber : List Char → Prop where
  /-- A leading zero stands alone in front of the point. -/
  | parts {sign whole fraction power : List Char} (hsign : sign = [] ∨ sign = ['-'])
      (hwhole : Digits whole) (hzero : whole.head? = some '0' → whole = ['0'])
      (hfraction : IsFraction fraction) (hpower : IsPower power) :
      IsNumber (sign ++ (whole ++ (fraction ++ power)))

/-- The texts that are values. Their texts may hold halves of escape pairs, their numbers may
have any size, and brackets may be nested without bound. -/
inductive WellFormed : List Char → Prop where
  /-- `null`. -/
  | null : WellFormed "null".toList
  /-- A truth value. -/
  | bool (b : Bool) : WellFormed (if b then "true".toList else "false".toList)
  /-- A number. -/
  | number {text : List Char} (h : IsNumber text) : WellFormed text
  /-- A text. -/
  | text {body : List Char} (h : IsText body) : WellFormed ('"' :: (body ++ ['"']))
  /-- An array; only the number of its items is told. -/
  | array {items : List Unit} {text : List Char}
      (h : Bracketed (fun _ item => WellFormed item) '[' ']' items text) : WellFormed text
  /-- An object; only the number of its members is told. -/
  | object {members : List Unit} {text : List Char}
      (h : Bracketed (fun _ member => Member IsText WellFormed member) '\x7b' '\x7d' members text) :
      WellFormed text

/-- A text with its quotes. -/
inductive WritesText (s : String) : List Char → Prop where
  /-- Each character is written in any way. -/
  | quoted {body : List Char} (hbody : SpellsText body s.toList) :
      WritesText s ('"' :: (body ++ ['"']))

/-- A name of an enumeration. -/
inductive WritesName (name : String) : List Char → Prop where
  /-- The name alone. -/
  | alone {text : List Char} (htext : WritesText name text) : WritesName name text
  /-- An object whose one member has the name and no value. -/
  | object {text : List Char}
      (h : Bracketed (fun (_ : Unit) member =>
        Member (SpellsText · name.toList) (· = "null".toList) member) '\x7b' '\x7d' [()] text) :
      WritesName name text

section Parts

variable {P Q : α → List Char → Prop} {xs : List α} {inner : List Char}

/-- Parts stay parts under a condition that follows for each of them; none is longer than all. -/
theorem Parts.imp (h : Parts P xs inner)
    (hpart : ∀ x text, text.length ≤ inner.length → P x text → Q x text) : Parts Q xs inner := by
  induction h with
  | @last x before text after hbefore hx hafter =>
    refine .last hbefore (hpart x text ?_ hx) hafter
    simp only [List.length_append]
    omega
  | @more x xs before text after others hbefore hx hafter _ ih =>
    refine .more hbefore (hpart x text ?_ hx) hafter (ih fun y part hlength => hpart y part ?_)
    all_goals
      simp only [List.length_append, List.length_cons] at *
      omega

/-- There is a comma for each part but one. -/
theorem Parts.length_le (h : Parts P xs inner) : xs.length ≤ inner.length + 1 := by
  induction h with
  | last => simp
  | more _ _ _ _ ih =>
    simp only [List.length_append, List.length_cons]
    omega

theorem Parts.map {β : Type} {P : β → List Char → Prop} {f : α → β}
    (h : Parts (fun x => P (f x)) xs inner) : Parts P (xs.map f) inner := by
  induction h with
  | last hbefore hx hafter => exact .last hbefore hx hafter
  | more hbefore hx hafter _ ih => exact .more hbefore hx hafter ih

/-- Each part is one of the list. -/
theorem Parts.attach (h : Parts P xs inner) :
    Parts (fun x text => x ∈ xs ∧ P x text) xs inner := by
  induction h with
  | last hbefore hx hafter => exact .last hbefore ⟨List.mem_cons_self, hx⟩ hafter
  | more hbefore hx hafter _ ih =>
    refine .more hbefore ⟨List.mem_cons_self, hx⟩ hafter (ih.imp fun _ _ _ ⟨hmem, hy⟩ => ?_)
    exact ⟨List.mem_cons_of_mem _ hmem, hy⟩

theorem Parts.of_map {β : Type} {P : β → List Char → Prop} {f : α → β}
    (h : Parts P (xs.map f) inner) : Parts (fun x => P (f x)) xs inner := by
  generalize hmade : xs.map f = made at h
  induction h generalizing xs with
  | last hbefore hx hafter =>
    obtain ⟨x, rfl, rfl⟩ := List.map_eq_singleton_iff.mp hmade
    exact .last hbefore hx hafter
  | more hbefore hx hafter _ ih =>
    obtain ⟨x, others, rfl, rfl, hothers⟩ := List.map_eq_cons_iff.mp hmade
    exact .more hbefore hx hafter (ih hothers)

theorem Bracketed.imp {opening closing : Char} {text : List Char}
    (h : Bracketed P opening closing xs text)
    (hpart : ∀ x part, part.length < text.length → P x part → Q x part) :
    Bracketed Q opening closing xs text := by
  cases h with
  | empty hblanks => exact .empty hblanks
  | parts hparts =>
    refine .parts (hparts.imp fun x part hlength => hpart x part ?_)
    simp only [List.length_cons, List.length_append]
    omega

/-- Parts may be told by what they are made into. -/
theorem Bracketed.map {β : Type} {P : β → List Char → Prop} {f : α → β} {opening closing : Char}
    {text : List Char} (h : Bracketed (fun x => P (f x)) opening closing xs text) :
    Bracketed P opening closing (xs.map f) text := by
  cases h with
  | empty hblanks => exact .empty hblanks
  | parts hparts => exact .parts hparts.map

theorem Bracketed.attach {opening closing : Char} {text : List Char}
    (h : Bracketed P opening closing xs text) :
    Bracketed (fun x part => x ∈ xs ∧ P x part) opening closing xs text := by
  cases h with
  | empty hblanks => exact .empty hblanks
  | parts hparts => exact .parts hparts.attach

theorem Bracketed.of_map {β : Type} {P : β → List Char → Prop} {f : α → β}
    {opening closing : Char} {text : List Char}
    (h : Bracketed P opening closing (xs.map f) text) :
    Bracketed (fun x => P (f x)) opening closing xs text := by
  generalize hmade : xs.map f = made at h
  cases h with
  | empty hblanks =>
    obtain rfl := List.map_eq_nil_iff.mp hmade
    exact .empty hblanks
  | parts hparts =>
    subst hmade
    exact .parts hparts.of_map

end Parts

section Printed

variable {P : α → List Char → Prop}

/-- Texts with commas between them are parts. -/
private theorem parts_of_commas (write : α → List Char) {x : α} {xs : List α}
    (h : ∀ y ∈ x :: xs, P y (write y)) :
    Parts P (x :: xs) (write x ++ xs.flatMap fun y => ',' :: write y) := by
  induction xs generalizing x with
  | nil =>
    have hlast : Parts P [x] ([] ++ (write x ++ [])) := .last .nil (h x List.mem_cons_self) .nil
    simpa using hlast
  | cons y xs ih =>
    obtain ⟨hx, hxs⟩ := List.forall_mem_cons.mp h
    have hmore : Parts P (x :: y :: xs) ([] ++ (write x ++ ([] ++ ',' ::
        (write y ++ xs.flatMap fun y => ',' :: write y)))) := .more .nil hx .nil (ih hxs)
    simpa using hmore

/-- A printed array is one way to write its items. -/
theorem bracketed_array (toJson : α → Json) {xs : List α}
    (h : ∀ x ∈ xs, P x (toJson x).characters) :
    Bracketed P '[' ']' xs (Json.array (xs.map toJson)).characters := by
  cases xs with
  | nil => exact characters_emptyArray ▸ .empty .nil
  | cons x xs =>
    rw [List.map_cons, characters_array, List.flatMap_map, ← List.append_assoc]
    exact .parts (parts_of_commas (fun x => (toJson x).characters) h)

/-- A printed object is one way to write its members. -/
theorem bracketed_object (name : α → String) (value : α → Json) {xs : List α}
    (h : ∀ x ∈ xs, P x (quoted (name x) ++ ':' :: (value x).characters)) :
    Bracketed P '\x7b' '\x7d' xs
      (Json.object (xs.map fun x => (name x, value x))).characters := by
  cases xs with
  | nil =>
    have htext : (Json.object []).characters = ['\x7b', '\x7d'] := by simp [characters_eq, write]
    exact htext ▸ .empty .nil
  | cons x xs =>
    have hparts := parts_of_commas (fun x => quoted (name x) ++ ':' :: (value x).characters) h
    have hbracketed : Bracketed P '\x7b' '\x7d' (x :: xs) _ := .parts hparts
    rw [List.map_cons, characters_object, List.flatMap_map]
    simpa using hbracketed

/-- A printed text is one way to write it. -/
theorem writesText_characters (s : String) : WritesText s (Json.text s).characters := by
  rw [characters_text]
  exact .quoted (spellsText_escaped s.toList)

end Printed

end Periscope.Json
