import Periscope.Proofs.Json.Decoding
import Periscope.Proofs.Json.Grammar

/-!
# Reading what the grammar allows

A reader of values passes over the blanks in front of a value and stops right behind it. If it
does so for the parts of an array or object, in whatever way these are written, the readers of
containers do so for the whole. What a member adds depends on the members before it, so for
objects an invariant tells what was read and what is still to come.
-/

namespace Periscope.Json

variable {α β σ : Type}

section Blanks

variable {blanks : List Char} {input rest : Input}

theorem skipSpaces_blank (hblanks : Blank blanks) (input : Input) :
    skipSpaces (blanks.map some ++ input) = skipSpaces input := by
  have hall : ∀ s ∈ blanks.map some, isSpace s = true := by
    intro s hs
    obtain ⟨c, hc, rfl⟩ := List.mem_map.mp hs
    have hblank := hblanks c hc
    simp only [List.mem_cons, List.not_mem_nil, or_false] at hblank
    rcases hblank with rfl | rfl | rfl | rfl <;> rfl
  rw [skipSpaces, List.dropWhile_append_of_pos hall, skipSpaces]

/-- A reader does not mind blanks in front. -/
def IgnoresBlanks (reader : Reader α) : Prop :=
  ∀ blanks input, Blank blanks → reader (blanks.map some ++ input) = reader input

theorem IgnoresBlanks.bind {first : Reader α} (h : IgnoresBlanks first) (second : α → Reader β) :
    IgnoresBlanks (first >>= second) := by
  intro blanks input hblanks
  simp only [Bind.bind, StateT.bind, h blanks input hblanks]

theorem ignoresBlanks_peek : IgnoresBlanks peek := by
  intro blanks input hblanks
  simp only [peek, skipSpaces_blank hblanks]

theorem ignoresBlanks_peekValue : IgnoresBlanks peekValue := ignoresBlanks_peek.bind _

theorem ignoresBlanks_peekStart : IgnoresBlanks peekStart := ignoresBlanks_peekValue.bind _

theorem ignoresBlanks_nextPart (close : Char) (first : Bool) :
    IgnoresBlanks (nextPart close first) := ignoresBlanks_peek.bind _

theorem openName_blank (hblanks : Blank blanks) :
    openName (blanks.map some ++ some '"' :: rest) = .ok ((), rest) :=
  (ignoresBlanks_peekValue.bind _ blanks _ hblanks).trans openName_quote

theorem readColon_blank (hblanks : Blank blanks) :
    readColon (blanks.map some ++ some ':' :: rest) = .ok ((), rest) :=
  (ignoresBlanks_peekValue.bind _ blanks _ hblanks).trans readColon_colon

theorem closeVariant_blank (hblanks : Blank blanks) :
    Decoder.closeVariant (blanks.map some ++ some '\x7d' :: rest) = .ok ((), rest) :=
  (ignoresBlanks_peekValue.bind _ blanks _ hblanks).trans closeVariant_brace

/-- What may stand behind a value where there may be blanks. -/
def Follows (rest : Input) : Prop := EndsValue (skipSpaces rest)

theorem Follows.blank (h : Follows rest) (hblanks : Blank blanks) :
    Follows (blanks.map some ++ rest) := by
  rw [Follows, skipSpaces_blank hblanks]
  exact h

theorem follows_nil : Follows [] := by simp [Follows, skipSpaces, EndsValue]

/-- A comma or a closing bracket may stand behind a value. -/
theorem follows_cons {c : Char} (hc : c = ',' ∨ c = ']' ∨ c = '\x7d') :
    Follows (some c :: rest) := by
  rcases hc with rfl | rfl | rfl <;> simp [Follows, skipSpaces, EndsValue, isSpace]

/-- Blanks may stand in front of the comma or bracket. -/
theorem follows_separator (hblanks : Blank blanks) (c : Char)
    (hc : c = ',' ∨ c = ']' ∨ c = '\x7d') (rest : Input) :
    Follows (blanks.map some ++ some c :: rest) := (follows_cons hc).blank hblanks

/-- What may stand behind a value without blanks may stand there anyway. -/
theorem EndsValue.follows (h : EndsValue rest) : Follows rest := by
  cases rest with
  | nil => exact follows_nil
  | cons s others =>
    have hs : s = some ',' ∨ s = some ']' ∨ s = some '\x7d' := by simpa [EndsValue] using h
    rcases hs with rfl | rfl | rfl <;> exact follows_cons (by decide)

/-- Only a few characters stand right behind a value. -/
theorem Follows.cases (h : Follows rest) :
    rest = [] ∨ ∃ c others, rest = some c :: others ∧
      c ∈ [',', ']', '\x7d', ' ', '\n', '\t', '\r'] := by
  cases rest with
  | nil => exact .inl rfl
  | cons s others =>
    right
    by_cases hspace : isSpace s = true
    · have hs : ((s = some ' ' ∨ s = some '\n') ∨ s = some '\t') ∨ s = some '\r' := by
        simpa [isSpace] using hspace
      rcases hs with ((rfl | rfl) | rfl) | rfl <;> exact ⟨_, others, rfl, by decide⟩
    · have hsame : skipSpaces (s :: others) = s :: others := by simp [skipSpaces, hspace]
      have hs : s = some ',' ∨ s = some ']' ∨ s = some '\x7d' := by
        simpa [Follows, hsame, EndsValue] using h
      rcases hs with rfl | rfl | rfl <;> exact ⟨_, others, rfl, by decide⟩

/-- No digit stands behind a value. -/
theorem Follows.startsWithDigit (h : Follows rest) : startsWithDigit rest = false := by
  rcases h.cases with rfl | ⟨c, others, rfl, hc⟩
  · rfl
  · simp only [List.mem_cons, List.not_mem_nil, or_false] at hc
    rcases hc with rfl | rfl | rfl | rfl | rfl | rfl | rfl <;> rfl

end Blanks

/-- A reader takes a value from a text: it passes over blanks in front and stops behind it. -/
structure Reads (reader : Reader α) (value : α) (text : List Char) : Prop where
  /-- The text tells the kind of the value at once. -/
  begins : Begins text
  /-- The text is taken behind any blanks, wherever a value may end. -/
  behindBlanks : ∀ blanks rest, Blank blanks → Follows rest →
    reader (blanks.map some ++ (text.map some ++ rest)) = .ok (value, rest)

namespace Reads

variable {reader : Reader α} {value : α} {text before after : List Char} {rest : Input}

/-- A reader that does not mind blanks needs only to take the text itself. -/
theorem of_takes (hbegins : Begins text) (hignores : IgnoresBlanks reader)
    (htakes : ∀ rest, Follows rest → reader (text.map some ++ rest) = .ok (value, rest)) :
    Reads reader value text where
  begins := hbegins
  behindBlanks blanks rest hblanks hrest := by
    rw [hignores blanks _ hblanks]
    exact htakes rest hrest

theorem takes (h : Reads reader value text) (hrest : Follows rest) :
    reader (text.map some ++ rest) = .ok (value, rest) := h.behindBlanks [] rest .nil hrest

/-- A value that is made of one that was read. -/
theorem map (h : Reads reader value text) (f : α → β) :
    Reads (do return f (← reader)) (f value) text where
  begins := h.begins
  behindBlanks blanks rest hblanks hrest := bind_of_ok (h.behindBlanks blanks rest hblanks hrest)

/-- A value is read behind a colon. -/
theorem behind_colon (h : Reads reader value text) (hbefore : Blank before)
    (hafter : Blank after) (hrest : Follows rest) :
    (do readColon; reader) (before.map some ++ some ':' :: (after.map some ++
      (text.map some ++ rest))) = .ok (value, rest) := by
  rw [bind_of_ok (readColon_blank hbefore)]
  exact h.behindBlanks after rest hafter hrest

/-- A member is read if its name is and what comes next reads the value behind the colon. -/
theorem member {first : Reader β} {next : β → Reader α} {name : β} {body : List Char}
    (hname : ∀ rest, first (body.map some ++ some '"' :: rest) = .ok (name, rest))
    (hnext : next name = (do readColon; reader)) (hbefore : Blank before) (hafter : Blank after)
    (hvalue : Reads reader value text) :
    Reads (do openName; let name ← first; next name) value
      ('"' :: (body ++ '"' :: (before ++ ':' :: (after ++ text)))) := by
  refine .of_takes ⟨'"', _, rfl, by decide⟩ ((ignoresBlanks_peekValue.bind _).bind _)
    fun rest hrest => ?_
  have hbehind := hvalue.behind_colon hbefore hafter hrest
  simp only [List.map_append, List.map_cons, List.append_assoc, List.cons_append]
  rw [bind_of_ok openName_quote, bind_of_ok (hname _), hnext]
  exact hbehind

end Reads

/-- A document is decoded from any text of its value, with any blanks around it. -/
theorem Reads.decodeText {decoder : Decoder α} {value : α} {text before after : List Char}
    (h : Reads (decoder depthLimit) value text) (hbefore : Blank before) (hafter : Blank after) :
    decodeText decoder (String.ofList (before ++ (text ++ after))) = .ok value := by
  have hend : Follows (after.map some) := by simpa using follows_nil.blank hafter
  have hspaces : skipSpaces (after.map some) = [] := by
    simpa [skipSpaces] using skipSpaces_blank hafter []
  have hread : decoder depthLimit (symbolsOf (String.ofList (before ++ (text ++ after)))) =
      .ok (value, after.map some) := by
    simpa [symbolsOf] using h.behindBlanks before _ hbefore hend
  simp only [Json.decodeText, decode, hread, hspaces, if_true]

section Containers

variable {P : α → List Char → Prop} {xs : List α} {inner text : List Char}

/-- What stands in front of a part, up to the blanks: a comma unless the part is the first. -/
inductive Lead : Bool → List Char → Prop where
  /-- The first part follows the bracket. -/
  | bracket : Lead true []
  /-- A comma follows the blanks behind the part before. -/
  | comma {blanks : List Char} (hblanks : Blank blanks) : Lead false (blanks ++ [','])

/-- Both kinds of brackets close alike. -/
private theorem closing_outside {close : Char} (hclose : close = ']' ∨ close = '\x7d') :
    isSpace (some close) = false ∧ close ≠ ',' := by
  rcases hclose with rfl | rfl <;> exact ⟨rfl, by decide⟩

/-- A further part is found behind its lead. -/
theorem nextPart_begins {close : Char} {first : Bool} {lead before : List Char}
    (hlead : Lead first lead) (hclose : close = ']' ∨ close = '\x7d') (hbefore : Blank before)
    (hbegins : Begins text) (rest : Input) :
    nextPart close first (lead.map some ++ (before.map some ++ (text.map some ++ rest))) =
      .ok (true, text.map some ++ rest) := by
  obtain ⟨c, others, rfl, hstart⟩ := hbegins
  obtain ⟨hspace, hbracket, hbrace⟩ := start_outside hstart
  have houtside : some c ≠ some close := by rcases hclose with rfl | rfl <;> assumption
  obtain ⟨hclosing, hcomma⟩ := closing_outside hclose
  cases hlead with
  | bracket =>
    have hfirst : nextPart close true (some c :: (others.map some ++ rest)) =
        .ok (true, some c :: (others.map some ++ rest)) := nextPart_first hspace houtside
    exact (ignoresBlanks_nextPart close true before _ hbefore).trans hfirst
  | @comma blanks hblanks =>
    have hpeek : peekValue (before.map some ++ some c :: (others.map some ++ rest)) =
        .ok (some c, some c :: (others.map some ++ rest)) :=
      (ignoresBlanks_peekValue before _ hbefore).trans (peekValue_cons hspace)
    simp only [List.map_append, List.map_cons, List.map_nil, List.append_assoc, List.cons_append,
      List.nil_append]
    rw [ignoresBlanks_nextPart close false blanks _ hblanks]
    exact nextPart_comma hcomma hpeek houtside

/-- There is no further part in front of the closing bracket. -/
theorem nextPart_ends {close : Char} {blanks : List Char} (first : Bool)
    (hclose : close = ']' ∨ close = '\x7d') (hblanks : Blank blanks) (rest : Input) :
    nextPart close first (blanks.map some ++ some close :: rest) =
      .ok (false, some close :: rest) :=
  (ignoresBlanks_nextPart close first blanks _ hblanks).trans
    (nextPart_close first rest (closing_outside hclose).1)

/-- The items of an array are read, from any of them on. -/
theorem readItemsFrom_parts {item : Reader α} (h : Parts (Reads item) xs inner) {first : Bool}
    {lead : List Char} (hlead : Lead first lead) (bound rest : Input)
    (hbound : xs.length < bound.length) :
    readItemsFrom item bound first (lead.map some ++ (inner.map some ++ some ']' :: rest)) =
      .ok (xs, rest) := by
  induction h generalizing first lead bound with
  | @last x before text after hbefore hx hafter =>
    obtain ⟨s, bound, rfl⟩ := List.exists_cons_of_length_pos (Nat.zero_lt_of_lt hbound)
    obtain ⟨t, bound, rfl⟩ := List.exists_cons_of_length_pos (Nat.lt_of_succ_lt_succ hbound)
    have hnext := nextPart_begins hlead (.inl rfl) hbefore hx.begins
      (after.map some ++ some ']' :: rest)
    have hread := hx.takes (follows_separator hafter ']' (by decide) rest)
    have hend := nextPart_ends false (.inl rfl) hafter rest
    simp only [List.map_append, List.append_assoc]
    exact readItemsFrom_item hnext hread (readItemsFrom_end hend)
  | @more x xs before text after others hbefore hx hafter _ ih =>
    obtain ⟨s, bound, rfl⟩ := List.exists_cons_of_length_pos (Nat.zero_lt_of_lt hbound)
    have hnext := nextPart_begins hlead (.inl rfl) hbefore hx.begins
      (after.map some ++ some ',' :: (others.map some ++ some ']' :: rest))
    have hread := hx.takes (follows_separator hafter ',' (by decide)
      (others.map some ++ some ']' :: rest))
    have hothers := ih (.comma hafter) bound (Nat.lt_of_succ_lt_succ hbound)
    simp only [List.map_append, List.map_cons, List.map_nil, List.append_assoc, List.cons_append,
      List.nil_append] at hothers ⊢
    exact readItemsFrom_item hnext hread hothers

/-- An array is read behind its opening bracket. -/
theorem readItems_bracketed {item : Reader α} (h : Bracketed (Reads item) '[' ']' xs text) :
    ∃ behind, text = '[' :: behind ∧
      ∀ rest, readItems item (behind.map some ++ rest) = .ok (xs, rest) := by
  cases h with
  | @empty blanks hblanks =>
    refine ⟨_, rfl, fun rest => ?_⟩
    rw [List.map_append, List.append_assoc]
    exact readItemsFrom_end (nextPart_ends true (.inl rfl) hblanks rest)
  | @parts xs inner hparts =>
    refine ⟨_, rfl, fun rest => ?_⟩
    have hlength := hparts.length_le
    have hbound : xs.length < (none :: (inner.map some ++ some ']' :: rest)).length := by
      simp only [List.length_cons, List.length_append, List.length_map]
      omega
    have hread := readItemsFrom_parts hparts .bracket _ rest hbound
    rw [List.map_append, List.append_assoc]
    exact hread

section Members

/- `I` relates what was read to the parts that are still to come. -/
variable (member : σ → Reader σ) (I : σ → List α → Prop)
  (hmember : ∀ read x xs text, I read (x :: xs) → P x text →
    ∃ next, Reads (do openName; member read) next text ∧ I next xs)

include hmember

/-- The members of an object are read, from any of them on. -/
theorem readMembersFrom_parts (h : Parts P xs inner) {read : σ} (hread : I read xs) :
    ∃ last, I last [] ∧ ∀ {first : Bool} {lead : List Char} (_ : Lead first lead)
      (bound rest : Input) (_ : xs.length < bound.length),
        readMembersFrom member bound first read
          (lead.map some ++ (inner.map some ++ some '\x7d' :: rest)) = .ok (last, rest) := by
  induction h generalizing read with
  | @last x before text after hbefore hx hafter =>
    obtain ⟨next, hnext, hlast⟩ := hmember _ _ _ _ hread hx
    refine ⟨next, hlast, fun {first lead} hlead bound rest hbound => ?_⟩
    obtain ⟨s, bound, rfl⟩ := List.exists_cons_of_length_pos (Nat.zero_lt_of_lt hbound)
    obtain ⟨t, bound, rfl⟩ := List.exists_cons_of_length_pos (Nat.lt_of_succ_lt_succ hbound)
    have hfound := nextPart_begins hlead (.inr rfl) hbefore hnext.begins
      (after.map some ++ some '\x7d' :: rest)
    have htaken := hnext.takes (follows_separator hafter '\x7d' (by decide) rest)
    have hend := nextPart_ends false (.inr rfl) hafter rest
    simp only [List.map_append, List.append_assoc]
    exact readMembersFrom_member hfound htaken (readMembersFrom_end hend)
  | @more x xs before text after others hbefore hx hafter _ ih =>
    obtain ⟨next, hnext, hxs⟩ := hmember _ _ _ _ hread hx
    obtain ⟨last, hlast, hothers⟩ := ih hxs
    refine ⟨last, hlast, fun {first lead} hlead bound rest hbound => ?_⟩
    obtain ⟨s, bound, rfl⟩ := List.exists_cons_of_length_pos (Nat.zero_lt_of_lt hbound)
    have hfound := nextPart_begins hlead (.inr rfl) hbefore hnext.begins
      (after.map some ++ some ',' :: (others.map some ++ some '\x7d' :: rest))
    have htaken := hnext.takes (follows_separator hafter ',' (by decide)
      (others.map some ++ some '\x7d' :: rest))
    have hothers := hothers (.comma hafter) bound rest (Nat.lt_of_succ_lt_succ hbound)
    simp only [List.map_append, List.map_cons, List.map_nil, List.append_assoc, List.cons_append,
      List.nil_append] at hothers ⊢
    exact readMembersFrom_member hfound htaken hothers

/-- An object is read behind its opening brace. -/
theorem readMembers_bracketed (start : σ) (hstart : I start xs)
    (h : Bracketed P '\x7b' '\x7d' xs text) :
    ∃ behind last, text = '\x7b' :: behind ∧ I last [] ∧
      ∀ rest, readMembers member start (behind.map some ++ rest) = .ok (last, rest) := by
  cases h with
  | @empty blanks hblanks =>
    refine ⟨_, start, rfl, hstart, fun rest => ?_⟩
    rw [List.map_append, List.append_assoc]
    exact readMembersFrom_end (nextPart_ends true (.inr rfl) hblanks rest)
  | @parts xs inner hparts =>
    obtain ⟨last, hlast, htaken⟩ := readMembersFrom_parts member I hmember hparts hstart
    refine ⟨_, last, rfl, hlast, fun rest => ?_⟩
    have hlength := hparts.length_le
    have hbound : xs.length < (none :: (inner.map some ++ some '\x7d' :: rest)).length := by
      simp only [List.length_cons, List.length_append, List.length_map]
      omega
    have hread := htaken .bracket _ rest hbound
    rw [List.map_append, List.append_assoc]
    exact hread

end Members

end Containers

section Decoders

variable {text : List Char}

/-- A text is read in whatever way it is written. -/
theorem text_reads (depth : Nat) {s : String} (h : WritesText s text) :
    Reads (Decoder.text depth) s text := by
  cases h with
  | @quoted body hbody =>
    refine .of_takes ⟨'"', _, rfl, by decide⟩ (ignoresBlanks_peekStart.bind _) fun rest _ => ?_
    have hstart : start? (some '"') = some .quote := rfl
    rw [Decoder.text, List.map_cons, List.cons_append, List.map_append, List.append_assoc,
      bind_of_ok (peekStart_cons (by decide) hstart)]
    exact (bind_of_ok advance_cons).trans (readQuoted_spelled hbody rest)

/-- `null` is read. -/
theorem unit_reads (depth : Nat) : Reads (Decoder.unit depth) () "null".toList := by
  refine .of_takes ⟨'n', _, rfl, by decide⟩ (ignoresBlanks_peekStart.bind _) fun rest _ => ?_
  have hstart : start? (some 'n') = some .null := rfl
  rw [Decoder.unit]
  exact (bind_of_ok (peekStart_cons (by decide) hstart)).trans rfl

/-- A list is read if its items are and one more bracket may be opened. -/
theorem list_reads {item : Decoder α} {depth : Nat} {xs : List α}
    (h : Bracketed (Reads (item depth)) '[' ']' xs text) :
    Reads (Decoder.list item (depth + 1)) xs text := by
  obtain ⟨behind, rfl, htaken⟩ := readItems_bracketed h
  refine .of_takes ⟨'[', _, rfl, by decide⟩ (ignoresBlanks_peekStart.bind _) fun rest _ => ?_
  rw [List.map_cons, List.cons_append, list_bracket]
  exact htaken rest

private theorem enumeration_alone {parse? : String → Option α} {name : String} {value : α}
    (depth : Nat) (hparse : parse? name = some value) (h : WritesText name text) :
    Reads (Decoder.enumeration parse? depth) value text := by
  cases h with
  | @quoted body hbody =>
    refine .of_takes ⟨'"', _, rfl, by decide⟩ (ignoresBlanks_peekValue.bind _) fun rest _ => ?_
    have hread := readQuoted_spelled hbody rest
    rw [Decoder.enumeration, List.map_cons, List.cons_append, List.map_append,
      List.append_assoc, bind_of_ok (peekValue_cons (by decide))]
    refine (bind_of_ok advance_cons).trans ((bind_of_ok hread).trans ?_)
    simp only [hparse]
    rfl

private theorem enumeration_object {parse? : String → Option α} {name : String} {value : α}
    {before after : List Char} (depth : Nat) (hparse : parse? name = some value)
    (hbefore : Blank before) (hafter : Blank after)
    (h : Member (SpellsText · name.toList) (· = "null".toList) text) :
    Reads (Decoder.enumeration parse? (depth + 1)) value
      ('\x7b' :: (before ++ (text ++ after) ++ ['\x7d'])) := by
  cases h with
  | @colon body beforeColon afterColon null hname hbeforeColon hafterColon hnull =>
    subst hnull
    refine .of_takes ⟨'\x7b', _, rfl, by decide⟩ (ignoresBlanks_peekValue.bind _) fun rest _ => ?_
    have hread := (unit_reads depth).behind_colon hbeforeColon hafterColon
      (follows_separator hafter '\x7d' (by decide) rest)
    simp only [List.map_append, List.map_cons, List.map_nil, List.append_assoc,
      List.cons_append, List.nil_append]
    rw [Decoder.enumeration, bind_of_ok (peekValue_cons (by decide))]
    refine (bind_of_ok advance_cons).trans ?_
    dsimp only
    rw [bind_of_ok (openName_blank hbefore), bind_of_ok (readQuoted_spelled hname _), hparse]
    simp only [pure_bind]
    rw [← bind_assoc, bind_of_ok hread, bind_of_ok (closeVariant_blank hafter)]
    rfl

/-- A name of an enumeration is read in both of its forms. -/
theorem enumeration_reads {parse? : String → Option α} {name : String} {value : α} (depth : Nat)
    (hparse : parse? name = some value) (h : WritesName name text) :
    Reads (Decoder.enumeration parse? (depth + 1)) value text := by
  cases h with
  | alone htext => exact enumeration_alone (depth + 1) hparse htext
  | object h =>
    cases h with
    | parts hparts =>
      cases hparts with
      | last hbefore hmember hafter =>
        exact enumeration_object depth hparse hbefore hafter hmember
      | more _ _ _ hnone => cases hnone

/-- A record is read from an object if an invariant leads through its members. -/
theorem object_reads {δ : Type} {P : α → List Char → Prop} {fields : List (Decoder.Field δ)}
    {empty : δ} {finish : δ → Option β} {short : Bool} {depth : Nat} {value : β} {xs : List α}
    (I : δ → List α → Prop) (hempty : I empty xs)
    (hmember : ∀ draft x xs text, I draft (x :: xs) → P x text → ∃ next,
      Reads (do openName; Decoder.readMember fields depth draft) next text ∧ I next xs)
    (hfinish : ∀ draft, I draft [] → finish draft = some value)
    (h : Bracketed P '\x7b' '\x7d' xs text) :
    Reads (Decoder.record fields empty finish short (depth + 1)) value text := by
  obtain ⟨behind, last, rfl, hlast, htaken⟩ :=
    readMembers_bracketed (Decoder.readMember fields depth) I hmember empty hempty h
  refine .of_takes ⟨'\x7b', _, rfl, by decide⟩ (ignoresBlanks_peekStart.bind _) fun rest _ => ?_
  exact record_brace (htaken rest) (hfinish last hlast)

/-- A member is read into the field that has its name. -/
theorem readMember_known {δ : Type} {fields : List (Decoder.Field δ)} {field : Decoder.Field δ}
    {depth : Nat} {draft next : δ} {name : String} {V : List Char → Prop}
    (hfield : fields.find? (·.name = name) = some field) (hfilled : field.filled draft = false)
    (hvalue : ∀ value, V value → Reads (field.read depth draft) next value)
    (h : Member (SpellsText · name.toList) V text) :
    Reads (do openName; Decoder.readMember fields depth draft) next text := by
  cases h with
  | colon hname hbefore hafter hV =>
    refine .member (readQuoted_spelled hname) ?_ hbefore hafter (hvalue _ hV)
    simp only [hfield, hfilled, Bool.false_eq_true, if_false]

end Decoders

end Periscope.Json
