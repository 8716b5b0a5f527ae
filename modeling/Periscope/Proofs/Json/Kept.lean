import Periscope.Proofs.Json.Integer
import Periscope.Proofs.Json.Layout

/-!
# Values that are kept

A value is kept whatever its shape: its brackets are followed inwards, and the members of its
objects go into a table in the order of their names. So a value without doubles is read back from
any way to write it, as long as it is not nested too deep.
-/

namespace Periscope.Json

/-- A value without doubles whose numbers fit 64 bits and of which at most so many brackets are
open at a time. Its objects have their members in the order of their names. -/
inductive Keepable : Nat → Json → Prop where
  /-- `null`. -/
  | null (depth : Nat) : Keepable depth .null
  /-- A truth value. -/
  | bool (depth : Nat) (b : Bool) : Keepable depth (.bool b)
  /-- An integer, signed or unsigned. -/
  | integer (depth : Nat) {n : Int} (hleast : -9223372036854775808 ≤ n)
      (hgreatest : n ≤ 18446744073709551615) : Keepable depth (.integer n)
  /-- Any text. -/
  | text (depth : Nat) (s : String) : Keepable depth (.text s)
  /-- Items inside one bracket more. -/
  | array {depth : Nat} {items : List Json} (hitems : ∀ item ∈ items, Keepable depth item) :
      Keepable (depth + 1) (.array items)
  /-- Members inside one bracket more. -/
  | object {depth : Nat} {members : List (String × Json)}
      (hnames : (members.map Prod.fst).Pairwise (compare · · = .lt))
      (hmembers : ∀ member ∈ members, Keepable depth member.2) :
      Keepable (depth + 1) (.object members)

section Members

variable {α σ : Type} {member : σ → Reader σ} {P : α → List Char → Prop}

/-- Members lead from what was read before them to what is read with them. -/
inductive Leads (member : σ → Reader σ) (P : α → List Char → Prop) : σ → List α → σ → Prop where
  /-- There are no more members. -/
  | done (read : σ) : Leads member P read [] read
  /-- The next member is read in front of the others. -/
  | next {read next last : σ} {x : α} {xs : List α}
      (hmember : ∀ text, P x text → Reads (do openName; member read) next text)
      (hothers : Leads member P next xs last) : Leads member P read (x :: xs) last

/-- An object is read from what its members lead to. -/
theorem Leads.reads {β : Type} {reader : Reader β} {out : β} {start last : σ} {xs : List α}
    {text : List Char} (hleads : Leads member P start xs last)
    (hignores : IgnoresBlanks reader)
    (hbrace : ∀ input rest, readMembers member start input = .ok (last, rest) →
      reader (some '\x7b' :: input) = .ok (out, rest))
    (h : Bracketed P '\x7b' '\x7d' xs text) : Reads reader out text := by
  obtain ⟨behind, read, rfl, hread, htaken⟩ := readMembers_bracketed member
    (fun read xs => Leads member P read xs last)
    (fun read x xs text hleads hx => by
      cases hleads with
      | next hmember hothers => exact ⟨_, hmember text hx, hothers⟩)
    start hleads h
  cases hread
  refine .of_takes ⟨'\x7b', _, rfl, by decide⟩ hignores fun rest _ => ?_
  rw [List.map_cons, List.cons_append]
  exact hbrace _ _ (htaken rest)

/-- An opening brace is seen before it is dropped. -/
theorem peekStart_brace (input : Input) :
    peekStart (some '\x7b' :: input) = .ok (.brace, some '\x7b' :: input) :=
  peekStart_cons (by decide) rfl

end Members

section Tables

variable {κ α β : Type} [Ord κ] [Std.TransOrd κ] {member : List (κ × α) → Reader (List (κ × α))}
  {P : κ × α → List Char → Prop}

/-- Members in the order of their keys lead to the table of them. -/
theorem leads_table {entries : List (κ × α)}
    (hsorted : (entries.map Prod.fst).Pairwise (compare · · = .lt))
    (hmember : ∀ entry ∈ entries, ∀ read text, P entry text →
      Reads (do openName; member read) (Pairs.insert entry.1 entry.2 read) text) :
    Leads member P [] entries entries := by
  -- Along the members, those that were read and those to come are all of them.
  have hfrom : ∀ read others, read ++ others = entries → Leads member P read others entries := by
    intro read others hsplit
    induction others generalizing read with
    | nil =>
      obtain rfl : read = entries := by simpa using hsplit
      exact .done read
    | cons entry others ih =>
      obtain ⟨key, value⟩ := entry
      have hmem : (key, value) ∈ entries := hsplit ▸ by simp
      have hlast : Pairs.insert key value read = read ++ [(key, value)] := by
        refine Pairs.insert_eq_append key value read fun earlier hearlier => ?_
        rw [← hsplit, List.map_append, List.pairwise_append] at hsorted
        have hlt := hsorted.2.2 earlier.1 (List.mem_map_of_mem hearlier) key (by simp)
        exact Std.OrientedCmp.gt_of_lt hlt
      refine .next (fun text htext => hmember _ hmem read text htext) ?_
      rw [hlast]
      exact ih _ (by simpa using hsplit)
  exact hfrom [] entries rfl

end Tables

section Values

variable {depth : Nat} {start : Start} {value : Json} {input rest : Input} {text : List Char}

theorem ignoresBlanks_readValue (depth : Nat) : IgnoresBlanks (readValue depth) := by
  cases depth <;> exact ignoresBlanks_peekStart.bind _

/-- A value without brackets is read in whatever depth. -/
theorem readValue_scalar (hstart : peekStart input = .ok (start, input))
    (hbracket : start ≠ .bracket) (hbrace : start ≠ .brace)
    (hread : readScalar start input = .ok (value, rest)) :
    readValue depth input = .ok (value, rest) := by
  cases depth with
  | zero => exact (bind_of_ok hstart).trans hread
  | succ depth =>
    rw [readValue, bind_of_ok hstart]
    split
    · exact absurd rfl hbracket
    · exact absurd rfl hbrace
    · exact hread

/-- A word is taken from its front. -/
theorem takeWord_append (word : List Char) (rest : Input) :
    takeWord word (word.map some ++ rest) = .ok ((), rest) := by
  induction word with
  | nil => rfl
  | cons c word ih => simpa [takeWord] using ih

/-- A value that is a word is read. -/
theorem word_value_reads {c : Char} {word : List Char} (depth : Nat) (start : Start)
    (hc : start? (some c) = some start) (hbracket : start ≠ .bracket) (hbrace : start ≠ .brace)
    (hread : readScalar start = (do takeWord (c :: word); pure value)) :
    Reads (readValue depth) value (c :: word) := by
  have hsome : (start? (some c)).isSome := by simp [hc]
  refine .of_takes ⟨c, word, rfl, hsome⟩ (ignoresBlanks_readValue depth) fun rest _ => ?_
  refine readValue_scalar (peekStart_cons (start_outside hsome).1 hc) hbracket hbrace ?_
  rw [hread]
  exact bind_of_ok (takeWord_append (c :: word) rest)

/-- An array is read in one depth more than its items. -/
theorem array_value_reads {items : List Json}
    (h : Bracketed (Reads (readValue depth)) '[' ']' items text) :
    Reads (readValue (depth + 1)) (.array items) text := by
  obtain ⟨behind, rfl, htaken⟩ := readItems_bracketed h
  refine .of_takes ⟨'[', _, rfl, by decide⟩ (ignoresBlanks_readValue _) fun rest _ => ?_
  have hstart : peekStart (some '[' :: (behind.map some ++ rest)) =
      .ok (.bracket, some '[' :: (behind.map some ++ rest)) := peekStart_cons (by decide) rfl
  rw [readValue, List.map_cons, List.cons_append, bind_of_ok hstart]
  exact (bind_of_ok advance_cons).trans (bind_of_ok (htaken rest))

/-- A member is read if what its name leads to reads the value behind the colon. -/
theorem WritesMember.reads {α : Type} {next : String → Reader α} {reader : Reader α} {name : String}
    {out : α} (h : WritesMember (name, value) text)
    (hnext : next name = (do readColon; reader))
    (hvalue : ∀ part, Writes value part → Reads reader out part) :
    Reads (do openName; let name ← readQuoted; next name) out text := by
  cases h with
  | colon hname hbefore hafter hwrites =>
    exact .member (readQuoted_spelled hname) hnext hbefore hafter (hvalue _ hwrites)

/-- An object is read in one depth more than its members. -/
theorem object_value_reads {members : List (String × Json)}
    (hnames : (members.map Prod.fst).Pairwise (compare · · = .lt))
    (hvalues : ∀ member ∈ members, ∀ part, Writes member.2 part →
      Reads (readValue depth) member.2 part)
    (h : Bracketed (fun member part => WritesMember member part) '\x7b' '\x7d' members text) :
    Reads (readValue (depth + 1)) (.object members) text := by
  let member (read : List (String × Json)) : Reader (List (String × Json)) := do
    let name ← readQuoted
    readColon
    return Pairs.insert name (← readValue depth) read
  have hmember : ∀ entry ∈ members, ∀ read part, WritesMember entry part →
      Reads (do openName; member read) (Pairs.insert entry.1 entry.2 read) part :=
    fun entry hentry read _ hpart => hpart.reads rfl fun part hwrites =>
      (hvalues entry hentry part hwrites).map (Pairs.insert entry.1 · read)
  refine (leads_table hnames hmember).reads (ignoresBlanks_readValue _)
    (fun input rest hread => ?_) h
  rw [readValue, bind_of_ok (peekStart_brace input)]
  exact (bind_of_ok advance_cons).trans (bind_of_ok hread)

end Values

/-- A value that can be kept is read back from any way to write it. -/
theorem Keepable.reads {bound : Nat} {value : Json} (h : Keepable bound value) {depth : Nat}
    (hdepth : bound ≤ depth) {text : List Char} (htext : Writes value text) :
    Reads (readValue depth) value text := by
  -- By induction on the value: each bracket takes one of the depth.
  induction h generalizing depth text with
  | null =>
    cases htext
    exact word_value_reads depth .null rfl (by decide) (by decide) rfl
  | bool _ b =>
    cases htext
    cases b with
    | true => exact word_value_reads depth .true rfl (by decide) (by decide) rfl
    | false => exact word_value_reads depth .false rfl (by decide) (by decide) rfl
  | @integer _ n hleast hgreatest =>
    cases htext
    refine .of_takes (begins_characters _) (ignoresBlanks_readValue depth) fun rest hrest => ?_
    refine readValue_scalar (peekStart_integer n rest) (by decide) (by decide) ?_
    exact bind_of_ok (readNumber_integer hleast hgreatest hrest)
  | text _ s =>
    cases htext with
    | text hs =>
      cases hs with
      | @quoted body hbody =>
        refine .of_takes ⟨'"', _, rfl, by decide⟩ (ignoresBlanks_readValue depth) fun rest _ => ?_
        rw [List.map_cons, List.cons_append, List.map_append, List.append_assoc]
        refine readValue_scalar (peekStart_cons (by decide) rfl) (by decide) (by decide) ?_
        exact (bind_of_ok advance_cons).trans (bind_of_ok (readQuoted_spelled hbody rest))
  | array hitems ih =>
    obtain ⟨depth, rfl⟩ := Nat.exists_eq_add_of_lt hdepth
    cases htext with
    | array hparts =>
      refine array_value_reads (hparts.attach.imp fun item part _ ⟨hmem, hpart⟩ => ?_)
      exact ih item hmem (by omega) hpart
  | object hnames hmembers ih =>
    obtain ⟨depth, rfl⟩ := Nat.exists_eq_add_of_lt hdepth
    cases htext with
    | object hparts =>
      refine object_value_reads hnames (fun member hmem part hpart => ?_) hparts
      exact ih member hmem (by omega) hpart

end Periscope.Json
