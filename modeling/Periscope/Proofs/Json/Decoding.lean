import Periscope.Json.Decoder
import Periscope.Proofs.Json.Quoted

/-!
# Decoding what was printed

A codec prints a value and reads it back, wherever a value may end. This holds of texts, and
it carries over to lists and to objects with one member.
-/

namespace Periscope.Json

variable {α β δ : Type}

/-- Reading on behind what was read. -/
theorem bind_of_ok {first : Reader α} {second : α → Reader β} {input rest : Input} {value : α}
    (h : first input = .ok (value, rest)) : (first >>= second) input = second value rest := by
  simp [bind, StateT.bind, h, Except.bind]

section Readers

variable {s : Symbol} {rest : Input}

theorem peek_cons (hs : isSpace s = false) : peek (s :: rest) = .ok (some s, s :: rest) := by
  simp [peek, skipSpaces, hs]

theorem peekValue_cons (hs : isSpace s = false) : peekValue (s :: rest) = .ok (s, s :: rest) := by
  rw [peekValue, bind_of_ok (peek_cons hs)]
  rfl

theorem peekStart_cons {start : Start} (hs : isSpace s = false) (hstart : start? s = some start) :
    peekStart (s :: rest) = .ok (start, s :: rest) := by
  rw [peekStart, bind_of_ok (peekValue_cons hs), hstart]
  rfl

theorem advance_cons : advance (s :: rest) = .ok ((), rest) := rfl

theorem openName_quote : openName (some '"' :: rest) = .ok ((), rest) := by
  rw [openName, bind_of_ok (peekValue_cons (by decide))]
  rfl

theorem readColon_colon : readColon (some ':' :: rest) = .ok ((), rest) := by
  rw [readColon, bind_of_ok (peekValue_cons (by decide))]
  rfl

theorem closeVariant_brace : Decoder.closeVariant (some '\x7d' :: rest) = .ok ((), rest) := by
  rw [Decoder.closeVariant, bind_of_ok (peekValue_cons (by decide))]
  rfl

/-- A container ends at its closing bracket. -/
theorem nextPart_close {close : Char} (first : Bool) (rest : Input)
    (hspace : isSpace (some close) = false) :
    nextPart close first (some close :: rest) = .ok (false, some close :: rest) := by
  rw [nextPart, bind_of_ok (peek_cons hspace)]
  dsimp only
  rw [if_pos rfl]
  rfl

/-- The first part follows at once. -/
theorem nextPart_first {close : Char} (hspace : isSpace s = false) (hclose : s ≠ some close) :
    nextPart close true (s :: rest) = .ok (true, s :: rest) := by
  rw [nextPart, bind_of_ok (peek_cons hspace)]
  dsimp only
  rw [if_neg hclose, if_pos rfl]
  rfl

/-- A further part follows behind a comma. -/
theorem nextPart_comma {close : Char} {input : Input} (hcomma : close ≠ ',')
    (hvalue : peekValue input = .ok (s, rest)) (hclose : s ≠ some close) :
    nextPart close false (some ',' :: input) = .ok (true, rest) := by
  rw [nextPart, bind_of_ok (peek_cons (by decide))]
  simp only [Option.some.injEq, hcomma.symm, if_false, Bool.false_eq_true, if_true]
  rw [bind_of_ok advance_cons, bind_of_ok hvalue, if_neg hclose]
  rfl

end Readers

section Steps

variable {σ : Type} {item : Reader α} {member : σ → Reader σ} {s : Symbol} {first : Bool}
  {bound input found behind rest : Input}

/-- Reading items ends at the closing bracket. -/
theorem readItemsFrom_end (hnext : nextPart ']' first input = .ok (false, some ']' :: rest)) :
    readItemsFrom item (s :: bound) first input = .ok ([], rest) :=
  (bind_of_ok hnext).trans rfl

/-- An item is read in front of the others. -/
theorem readItemsFrom_item {value : α} {values : List α}
    (hnext : nextPart ']' first input = .ok (true, found))
    (hitem : item found = .ok (value, behind))
    (hothers : readItemsFrom item bound false behind = .ok (values, rest)) :
    readItemsFrom item (s :: bound) first input = .ok (value :: values, rest) := by
  rw [readItemsFrom, bind_of_ok hnext, if_pos rfl, bind_of_ok hitem, bind_of_ok hothers]
  rfl

/-- Reading members ends at the closing brace. -/
theorem readMembersFrom_end {read : σ}
    (hnext : nextPart '\x7d' first input = .ok (false, some '\x7d' :: rest)) :
    readMembersFrom member (s :: bound) first read input = .ok (read, rest) :=
  (bind_of_ok hnext).trans rfl

/-- A member is read before the others are. -/
theorem readMembersFrom_member {read next last : σ}
    (hnext : nextPart '\x7d' first input = .ok (true, found))
    (hmember : (do openName; member read) found = .ok (next, behind))
    (hothers : readMembersFrom member bound false next behind = .ok (last, rest)) :
    readMembersFrom member (s :: bound) first read input = .ok (last, rest) := by
  rw [readMembersFrom, bind_of_ok hnext, if_pos rfl, ← bind_assoc, bind_of_ok hmember]
  exact hothers

/-- A list is read behind its opening bracket, if one more may be opened. -/
theorem list_bracket {decoder : Decoder α} {depth : Nat} :
    Decoder.list decoder (depth + 1) (some '[' :: input) = readItems (decoder depth) input := by
  have hstart : start? (some '[') = some .bracket := rfl
  rw [Decoder.list, bind_of_ok (peekStart_cons (by decide) hstart)]
  exact bind_of_ok advance_cons

/-- A record is read behind its opening brace, if one more may be opened. -/
theorem record_brace {fields : List (Decoder.Field δ)} {depth : Nat} {empty last : δ}
    {finish : δ → Option α} {short : Bool} {value : α}
    (hmembers : readMembers (Decoder.readMember fields depth) empty input = .ok (last, rest))
    (hfinish : finish last = some value) :
    Decoder.record fields empty finish short (depth + 1) (some '\x7b' :: input) =
      .ok (value, rest) := by
  have hstart : start? (some '\x7b') = some .brace := rfl
  have hopened : Decoder.opened (fun depth => readMembers (Decoder.readMember fields depth) empty)
      (depth + 1) (some '\x7b' :: input) = .ok (last, rest) :=
    (bind_of_ok advance_cons).trans hmembers
  rw [Decoder.record, bind_of_ok (peekStart_cons (by decide) hstart)]
  dsimp only
  rw [bind_of_ok hopened, hfinish]
  rfl

end Steps

/-- A printed value begins with a character that tells its kind. -/
def Begins (text : List Char) : Prop := ∃ c rest, text = c :: rest ∧ (start? (some c)).isSome

theorem ne_of_isDigit {c other : Char} (hc : c.isDigit = true) (hother : other.isDigit = false) :
    c ≠ other := by
  rintro rfl
  exact absurd hc (by simp [hother])

theorem digit?_of_isDigit {c : Char} (hc : c.isDigit = true) :
    digit? (some c) = some (c.toNat - '0'.toNat) := by
  have hrange : '0' ≤ c ∧ c ≤ '9' := by simpa [Char.isDigit, Char.le_def] using hc
  rw [digit?, if_pos hrange]

/-- A digit begins a number. -/
theorem start?_of_isDigit {c : Char} (hc : c.isDigit = true) : start? (some c) = some .number := by
  have hdigit := digit?_of_isDigit hc
  unfold start?
  split
  all_goals first
    | exact absurd (Option.some.inj ‹_›) (ne_of_isDigit hc (by decide))
    | simp [hdigit]

private theorem begins_of_isDigit {digits : List Char} (hne : digits ≠ [])
    (hdigits : ∀ c ∈ digits, c.isDigit = true) (rest : List Char) : Begins (digits ++ rest) := by
  obtain ⟨c, others, rfl⟩ := List.exists_cons_of_ne_nil hne
  have hstart := start?_of_isDigit (hdigits c List.mem_cons_self)
  exact ⟨c, others ++ rest, rfl, by simp [hstart]⟩

private theorem begins_decimalText {digits : List Char} (hne : digits ≠ [])
    (hdigits : ∀ c ∈ digits, c.isDigit = true) (exponent : Int) :
    Begins (decimalText digits exponent) := by
  simp only [decimalText]
  by_cases hwhole : 0 ≤ exponent ∧ Int.ofNat digits.length + exponent ≤ 16
  · rw [if_pos hwhole, List.append_assoc]
    exact begins_of_isDigit hne hdigits _
  rw [if_neg hwhole]
  by_cases hinside : 0 < Int.ofNat digits.length + exponent ∧
      Int.ofNat digits.length + exponent ≤ 16
  · rw [if_pos hinside]
    refine begins_of_isDigit ?_ (fun c hc => hdigits c (List.mem_of_mem_take hc)) _
    have hlength := List.length_pos_iff.mpr hne
    refine List.length_pos_iff.mp ?_
    rw [List.length_take]
    omega
  rw [if_neg hinside]
  by_cases hsmall : -5 < Int.ofNat digits.length + exponent ∧
      Int.ofNat digits.length + exponent ≤ 0
  · rw [if_pos hsmall]
    exact ⟨'0', _, rfl, by decide⟩
  rw [if_neg hsmall]
  obtain ⟨c, others, rfl⟩ := List.exists_cons_of_ne_nil hne
  have hone (rest : List Char) : Begins ([c] ++ rest) :=
    begins_of_isDigit (by simp) (by simpa using hdigits c List.mem_cons_self) rest
  cases others with
  | nil => exact hone _
  | cons d others => exact hone _

private theorem begins_toDigits (n : Nat) (rest : List Char) :
    Begins (Nat.toDigits 10 n ++ rest) :=
  begins_of_isDigit Nat.toDigits_ne_nil
    (fun _ hc => Nat.isDigit_of_mem_toDigits (by decide) (by decide) hc) rest

/-- What a value begins with. -/
theorem begins_characters (value : Json) : Begins value.characters := by
  cases value with
  | null => exact ⟨'n', _, rfl, by decide⟩
  | bool b => cases b <;> exact ⟨_, _, rfl, by decide⟩
  | integer n =>
    cases n with
    | ofNat n =>
      have htext : (Json.integer (Int.ofNat n)).characters = Nat.toDigits 10 n ++ [] := by
        rw [characters_eq, List.append_nil]
        exact Nat.toList_repr
      exact htext ▸ begins_toDigits n []
    | negSucc n => exact ⟨'-', _, by simp [characters_eq, write, Int.repr]; rfl, by decide⟩
  | decimal x =>
    have hdigits (n : Nat) (exponent : Int) :
        Begins (decimalText (Nat.toDigits 10 n) exponent) :=
      begins_decimalText Nat.toDigits_ne_nil
        (fun _ hc => Nat.isDigit_of_mem_toDigits (by decide) (by decide) hc) exponent
    simp only [characters_eq, write, floatText, String.toList_append]
    split
    · next negative magnitude _ =>
      cases negative
      · simpa using hdigits _ _
      · exact ⟨'-', _, by simp; rfl, by decide⟩
    · exact ⟨'n', _, rfl, by decide⟩
  | text s => exact ⟨'"', _, by rw [characters_text]; rfl, by decide⟩
  | array items =>
    cases items with
    | nil => exact ⟨'[', _, rfl, by decide⟩
    | cons item rest => exact ⟨'[', _, by rw [characters_array], by decide⟩
  | object members =>
    cases members with
    | nil => exact ⟨'\x7b', _, rfl, by decide⟩
    | cons member rest => exact ⟨'\x7b', _, by rw [characters_object], by decide⟩

/-- What tells the kind of a value is neither a blank nor a closing bracket. -/
theorem start_outside {c : Char} (hc : (start? (some c)).isSome) :
    isSpace (some c) = false ∧ some c ≠ some ']' ∧ some c ≠ some '\x7d' := by
  refine ⟨?_, ?_, ?_⟩
  · refine Bool.eq_false_iff.mpr fun hspace => ?_
    have hblank : ((c = ' ' ∨ c = '\n') ∨ c = '\t') ∨ c = '\r' := by simpa [isSpace] using hspace
    rcases hblank with ((rfl | rfl) | rfl) | rfl <;> exact absurd hc (by decide)
  · rintro heq
    obtain rfl := Option.some.inj heq
    exact absurd hc (by decide)
  · rintro heq
    obtain rfl := Option.some.inj heq
    exact absurd hc (by decide)

/-- What may stand behind a value: nothing, or what separates or closes. -/
def EndsValue (rest : Input) : Prop :=
  rest.head? ∈ [none, some (some ','), some (some ']'), some (some '\x7d')]

/-- A value is read back from the text of its JSON, wherever a value may end, if so many
brackets may be opened. -/
def ReadsBack (depth : Nat) (decoder : Decoder α) (json : Json) (value : α) : Prop :=
  ∀ rest, EndsValue rest → decoder depth (json.characters.map some ++ rest) = .ok (value, rest)

/-- A value that is read back is decoded from its text alone. -/
theorem ReadsBack.decodeText {decoder : Decoder α} {json : Json} {value : α}
    (h : ReadsBack depthLimit decoder json value) :
    decodeText decoder json.compact = .ok value := by
  have hread : decoder depthLimit (symbolsOf json.compact) = .ok (value, []) := by
    simpa [symbolsOf, characters] using h [] (by simp [EndsValue])
  simp [Json.decodeText, decode, hread, skipSpaces]

/-- Texts are read back. -/
theorem text_readsBack (depth : Nat) (s : String) :
    ReadsBack depth Decoder.text (.text s) s := by
  intro rest _
  have hstart : start? (some '"') = some .quote := rfl
  rw [characters_text, quoted, Decoder.text, List.map_cons, List.cons_append,
    bind_of_ok (peekStart_cons (by decide) hstart), List.map_append, List.append_assoc]
  exact (bind_of_ok advance_cons).trans (readQuoted_quoted s rest)

/-- A text that may be missing is read back, and so is its absence. -/
theorem ofText?_readsBack (depth : Nat) (s : Option String) :
    ReadsBack depth (Decoder.option Decoder.text) (.ofText? s) s := by
  intro rest hrest
  cases s with
  | none =>
    have htext : (ofText? none).characters.map some ++ rest =
        some 'n' :: some 'u' :: some 'l' :: some 'l' :: rest := rfl
    rw [htext, Decoder.option, bind_of_ok (peek_cons (by decide))]
    rfl
  | some s =>
    have hread := text_readsBack depth s rest hrest
    have htext : (Json.text s).characters.map some ++ rest =
        some '"' :: ((s.toList.flatMap escaped ++ ['"']).map some ++ rest) := by
      rw [characters_text, quoted]
      rfl
    rw [htext] at hread
    rw [ofText?, htext, Decoder.option, bind_of_ok (peek_cons (by decide))]
    exact bind_of_ok hread

/-- A further item of an array follows at once behind a comma. -/
private theorem nextPart_item (value : Json) (rest : Input) :
    nextPart ']' false (some ',' :: (value.characters.map some ++ rest)) =
      .ok (true, value.characters.map some ++ rest) := by
  obtain ⟨c, others, htext, hstart⟩ := begins_characters value
  obtain ⟨hspace, hclose, _⟩ := start_outside hstart
  rw [htext]
  exact nextPart_comma (by decide) (peekValue_cons hspace) hclose

/-- The further items of an array, up to its closing bracket. -/
private def furtherItems (items : List Json) (rest : Input) : Input :=
  (items.flatMap fun item => ',' :: item.characters).map some ++ some ']' :: rest

private theorem furtherItems_cons (item : Json) (items : List Json) (rest : Input) :
    furtherItems (item :: items) rest =
      some ',' :: (item.characters.map some ++ furtherItems items rest) := by
  simp [furtherItems]

private theorem endsValue_furtherItems (items : List Json) (rest : Input) :
    EndsValue (furtherItems items rest) := by
  cases items with
  | nil => simp [EndsValue, furtherItems]
  | cons item items => simp [EndsValue, furtherItems_cons]

/-- The items of a list have their JSON, and so have the first and the others. -/
private theorem mapM_cons_eq_some {toJson : α → Option Json} {value : α} {values : List α}
    {items : List Json} (h : (value :: values).mapM toJson = some items) :
    ∃ item others, toJson value = some item ∧ values.mapM toJson = some others ∧
      items = item :: others := by
  cases hitem : toJson value with
  | none => simp [List.mapM_cons, hitem] at h
  | some item =>
    cases hothers : values.mapM toJson with
    | none => simp [List.mapM_cons, hitem, hothers] at h
    | some others => exact ⟨item, others, rfl, rfl, by simpa [hitem, hothers] using h.symm⟩

private theorem length_of_mapM {toJson : α → Option Json} {values : List α} {items : List Json}
    (h : values.mapM toJson = some items) : items.length = values.length := by
  induction values generalizing items with
  | nil =>
    obtain rfl : [] = items := by simpa using h
    rfl
  | cons value values ih =>
    obtain ⟨item, others, _, hothers, rfl⟩ := mapM_cons_eq_some h
    simp [ih hothers]

/-- The further items of a list are read back. -/
private theorem readItemsFrom_furtherItems {toJson : α → Option Json} {decoder : Decoder α}
    {depth : Nat} {values : List α} {items : List Json} (hitems : values.mapM toJson = some items)
    (hvalues : ∀ value ∈ values, ∀ item, toJson value = some item →
      ReadsBack depth decoder item value)
    (bound rest : Input) (hbound : values.length < bound.length) :
    readItemsFrom (decoder depth) bound false (furtherItems items rest) = .ok (values, rest) := by
  induction values generalizing items bound with
  | nil =>
    obtain ⟨s, bound, rfl⟩ := List.exists_cons_of_length_pos hbound
    obtain rfl : [] = items := by simpa using hitems
    exact readItemsFrom_end (nextPart_close false rest rfl)
  | cons value values ih =>
    obtain ⟨s, bound, rfl⟩ := List.exists_cons_of_length_pos (Nat.zero_lt_of_lt hbound)
    obtain ⟨item, others, hitem, hothers, rfl⟩ := mapM_cons_eq_some hitems
    obtain ⟨hvalue, hvalues⟩ := List.forall_mem_cons.mp hvalues
    have hbound' : values.length < bound.length := by simpa using hbound
    have hread := hvalue item hitem _ (endsValue_furtherItems others rest)
    rw [furtherItems_cons]
    exact readItemsFrom_item (nextPart_item _ _) hread (ih hothers hvalues bound hbound')

private theorem length_lt_furtherItems (items : List Json) (rest : Input) :
    items.length < (furtherItems items rest).length := by
  induction items with
  | nil => simp [furtherItems]
  | cons item items ih =>
    simp only [furtherItems_cons, List.length_cons, List.length_append]
    omega

/-- A list whose items are read back is read back, if one more bracket may be opened. -/
theorem list_readsBack {toJson : α → Option Json} {decoder : Decoder α} {depth : Nat}
    {values : List α} {items : List Json} (hitems : values.mapM toJson = some items)
    (hvalues : ∀ value ∈ values, ∀ item, toJson value = some item →
      ReadsBack depth decoder item value) :
    ReadsBack (depth + 1) (Decoder.list decoder) (.array items) values := by
  intro rest _
  cases values with
  | nil =>
    obtain rfl : [] = items := by simpa using hitems
    have htext : (Json.array []).characters.map some ++ rest = some '[' :: some ']' :: rest := by
      simp [characters_emptyArray]
    rw [htext, list_bracket]
    exact readItemsFrom_end (nextPart_close true rest rfl)
  | cons value values =>
    obtain ⟨item, others, hitem, hothers, rfl⟩ := mapM_cons_eq_some hitems
    obtain ⟨hvalue, hvalues⟩ := List.forall_mem_cons.mp hvalues
    have htext : (Json.array (item :: others)).characters.map some ++ rest =
        some '[' :: (item.characters.map some ++ furtherItems others rest) := by
      simp [characters_array, furtherItems]
    have hread := hvalue item hitem _ (endsValue_furtherItems others rest)
    rw [htext, list_bracket]
    generalize hinput : item.characters.map some ++ furtherItems others rest = input at hread
    have hbound : values.length < input.length := by
      have hlength := length_lt_furtherItems others rest
      have hsame : others.length = values.length := length_of_mapM hothers
      rw [← hinput, List.length_append]
      omega
    have hfirst : nextPart ']' true input = .ok (true, input) := by
      obtain ⟨c, others, htext, hstart⟩ := begins_characters item
      obtain ⟨hspace, hclose, _⟩ := start_outside hstart
      rw [← hinput, htext]
      exact nextPart_first hspace hclose
    exact readItemsFrom_item hfirst hread
      (readItemsFrom_furtherItems hothers hvalues input rest hbound)

/-- An object with one member is read back as the member's name tells. -/
theorem variant_reads {payload? : String → Option (Decoder β)} {payload : Decoder β} {name : String}
    {value : Json} {out : β} {depth : Nat} (hpayload : payload? name = some payload)
    (hvalue : ∀ rest, EndsValue rest →
      payload depth (value.characters.map some ++ rest) = .ok (out, rest)) (rest : Input) :
    Decoder.variant payload? (depth + 1)
      ((Json.object [(name, value)]).characters.map some ++ rest) = .ok (out, rest) := by
  have htext : (Json.object [(name, value)]).characters.map some ++ rest =
      some '\x7b' :: some '"' :: ((name.toList.flatMap escaped).map some ++ some '"' ::
        some ':' :: (value.characters.map some ++ some '\x7d' :: rest)) := by
    simp [characters_object, quoted]
  have hread := hvalue (some '\x7d' :: rest) (by simp [EndsValue])
  rw [htext, Decoder.variant, bind_of_ok (peekValue_cons (by decide))]
  refine (bind_of_ok advance_cons).trans ?_
  dsimp only
  rw [bind_of_ok openName_quote, bind_of_ok (readQuoted_quoted name _), hpayload]
  simp only []
  rw [bind_of_ok readColon_colon, bind_of_ok hread, bind_of_ok closeVariant_brace]
  rfl

/-- Members fill a draft: each belongs to a field that is not filled yet, and is read back. -/
inductive Fills (fields : List (Decoder.Field δ)) (depth : Nat) :
    δ → List (String × Json) → δ → Prop where
  /-- There are no more members. -/
  | done (draft : δ) : Fills fields depth draft [] draft
  /-- The next member fills a field. -/
  | member {draft next last : δ} {name : String} {value : Json} {members : List (String × Json)}
      {field : Decoder.Field δ} (hfield : fields.find? (·.name = name) = some field)
      (hfilled : field.filled draft = false)
      (hvalue : ∀ rest, EndsValue rest →
        field.read depth draft (value.characters.map some ++ rest) = .ok (next, rest))
      (hmembers : Fills fields depth next members last) :
      Fills fields depth draft ((name, value) :: members) last

/-- A field that a decoder reads is filled by what the decoder reads back. -/
theorem Fills.readsBack {fields : List (Decoder.Field δ)} {depth : Nat} {draft last : δ}
    {name : String} {json : Json} {decoder : Decoder α} {get : δ → Option α}
    {set : α → δ → δ} {value : α} {members : List (String × Json)}
    (hfield : fields.find? (·.name = name) = some (.of name decoder get set))
    (hget : get draft = none) (hvalue : ReadsBack depth decoder json value)
    (hmembers : Fills fields depth (set value draft) members last) :
    Fills fields depth draft ((name, json) :: members) last := by
  refine .member hfield (by simp [Decoder.Field.of, hget]) (fun rest hrest => ?_) hmembers
  exact bind_of_ok (hvalue rest hrest)

/-- The further members of an object, up to its closing brace. -/
private def furtherMembers (members : List (String × Json)) (rest : Input) : Input :=
  (members.flatMap fun member =>
    ',' :: (quoted member.1 ++ ':' :: member.2.characters)).map some ++ some '\x7d' :: rest

private theorem furtherMembers_cons (name : String) (value : Json)
    (members : List (String × Json)) (rest : Input) :
    furtherMembers ((name, value) :: members) rest =
      some ',' :: some '"' :: ((name.toList.flatMap escaped).map some ++ some '"' :: some ':' ::
        (value.characters.map some ++ furtherMembers members rest)) := by
  simp [furtherMembers, quoted]

private theorem endsValue_furtherMembers (members : List (String × Json)) (rest : Input) :
    EndsValue (furtherMembers members rest) := by
  cases members with
  | nil => simp [EndsValue, furtherMembers]
  | cons member members =>
    obtain ⟨name, value⟩ := member
    simp [EndsValue, furtherMembers_cons]

private theorem length_lt_furtherMembers (members : List (String × Json)) (rest : Input) :
    members.length < (furtherMembers members rest).length := by
  induction members with
  | nil => simp [furtherMembers]
  | cons member members ih =>
    obtain ⟨name, value⟩ := member
    simp only [furtherMembers_cons, List.length_cons, List.length_append]
    omega

/-- A member is read behind the quote that opens its name. -/
private theorem readMember_reads {fields : List (Decoder.Field δ)} {field : Decoder.Field δ}
    {depth : Nat} {draft next : δ} {name : String} {value : Json} {rest : Input}
    (hfield : fields.find? (·.name = name) = some field) (hfilled : field.filled draft = false)
    (hvalue : field.read depth draft (value.characters.map some ++ rest) = .ok (next, rest)) :
    Decoder.readMember fields depth draft ((name.toList.flatMap escaped).map some ++ some '"' ::
      some ':' :: (value.characters.map some ++ rest)) = .ok (next, rest) := by
  rw [Decoder.readMember, bind_of_ok (readQuoted_quoted name _), hfield]
  simp only [hfilled, Bool.false_eq_true, if_false]
  exact (bind_of_ok readColon_colon).trans hvalue

/-- The further members of an object are read into the draft. -/
private theorem readMembersFrom_furtherMembers {fields : List (Decoder.Field δ)} {depth : Nat}
    {draft last : δ} {members : List (String × Json)} (h : Fills fields depth draft members last)
    (bound rest : Input) (hbound : members.length < bound.length) :
    readMembersFrom (Decoder.readMember fields depth) bound false draft
      (furtherMembers members rest) = .ok (last, rest) := by
  induction h generalizing bound with
  | done draft =>
    obtain ⟨s, bound, rfl⟩ := List.exists_cons_of_length_pos hbound
    exact readMembersFrom_end (nextPart_close false rest rfl)
  | @member draft next last name value members field hfield hfilled hvalue hmembers ih =>
    obtain ⟨s, bound, rfl⟩ := List.exists_cons_of_length_pos (Nat.zero_lt_of_lt hbound)
    have hbound' : members.length < bound.length := by simpa using hbound
    have hnext (input : Input) : nextPart '\x7d' false (some ',' :: some '"' :: input) =
        .ok (true, some '"' :: input) :=
      nextPart_comma (by decide) (peekValue_cons (by decide)) (by decide)
    have hread := readMember_reads hfield hfilled (hvalue _ (endsValue_furtherMembers members rest))
    rw [furtherMembers_cons]
    exact readMembersFrom_member (hnext _) ((bind_of_ok openName_quote).trans hread)
      (ih bound hbound')

/-- A record is read back from an object whose members fill its draft. -/
theorem record_reads {fields : List (Decoder.Field δ)} {depth : Nat} {empty last : δ}
    {finish : δ → Option α} {short : Bool} {value : α} {name : String} {first : Json}
    {members : List (String × Json)}
    (h : Fills fields depth empty ((name, first) :: members) last)
    (hfinish : finish last = some value) (rest : Input) :
    Decoder.record fields empty finish short (depth + 1)
      ((Json.object ((name, first) :: members)).characters.map some ++ rest) =
        .ok (value, rest) := by
  have htext : (Json.object ((name, first) :: members)).characters.map some ++ rest =
      some '\x7b' :: some '"' :: ((name.toList.flatMap escaped).map some ++ some '"' :: some ':' ::
        (first.characters.map some ++ furtherMembers members rest)) := by
    simp [characters_object, quoted, furtherMembers]
  cases h with
  | @member _ next _ _ _ _ field hfield hfilled hvalue hmembers =>
    have hread := readMember_reads hfield hfilled (hvalue _ (endsValue_furtherMembers members rest))
    generalize hinput : (name.toList.flatMap escaped).map some ++ some '"' :: some ':' ::
      (first.characters.map some ++ furtherMembers members rest) = input at hread htext
    have hbound : members.length < (some '"' :: input).length := by
      have hlength := length_lt_furtherMembers members rest
      simp only [← hinput, List.length_cons, List.length_append]
      omega
    have hfirst : nextPart '\x7d' true (some '"' :: input) = .ok (true, some '"' :: input) :=
      nextPart_first (by decide) (by decide)
    rw [htext]
    exact record_brace (readMembersFrom_member hfirst ((bind_of_ok openName_quote).trans hread)
      (readMembersFrom_furtherMembers hmembers _ rest hbound)) hfinish

end Periscope.Json
