import Mathlib.Data.List.Forall2
import Periscope.Machine
import Periscope.Proofs.Text.Blank
import Periscope.Proofs.Text.Numeral
import Periscope.Proofs.Text.Offset

/-!
# What a process table lists

A process table has a directory for each process. The line in it says the number, the command
between parentheses, the state and the number of the parent. The command may be any text: whatever
parentheses it has, the first one of the line opens in front of it and the last one closes behind
it. What else stands in the table lists nothing.
-/

namespace Periscope

namespace ProcessRecord

/-! ## Lines -/

private theorem byteSize_opening (front : List Char) :
    byteSize (front ++ ['(']) = byteSize front + 1 := byteSize_append front ['(']

private theorem byteSize_closing (front : List Char) :
    byteSize (front ++ [')']) = byteSize front + 1 := byteSize_append front [')']

/-- The command stands between the first opening and the last closing parenthesis. -/
theorem splitCommand_eq_some_iff {line command rest : List Char} :
    splitCommand line = some (command, rest) ↔
      ∃ front, line = front ++ '(' :: (command ++ ')' :: rest) ∧ '(' ∉ front ∧ ')' ∉ rest := by
  constructor
  · intro h
    obtain ⟨opening, hopening, h⟩ := Option.bind_eq_some_iff.mp h
    obtain ⟨closing, hclosing, h⟩ := Option.bind_eq_some_iff.mp h
    obtain ⟨command', hcommand, h⟩ := Option.bind_eq_some_iff.mp h
    obtain ⟨rest', hrest, h⟩ := Option.bind_eq_some_iff.mp h
    obtain ⟨rfl, rfl⟩ := Prod.mk.inj (Option.some.inj h.symm)
    obtain ⟨front, opened, hfirst, hfront, rfl⟩ := firstOffset?_eq_some_iff.mp hopening
    obtain ⟨closed, behind, hlast, hbehind, rfl⟩ := lastOffset?_eq_some_iff.mp hclosing
    obtain ⟨before, after, hslice, hstart, hstop⟩ := slice?_eq_some_iff.mp hcommand
    obtain ⟨all, hall, hend⟩ := sliceFrom?_eq_some_iff.mp hrest
    -- The line is cut four times; cuts at one offset are the same.
    have hopened : front ++ ['('] ++ opened = before ++ (command ++ after) := by
      rw [List.append_assoc, List.singleton_append, ← hfirst, hslice, List.append_assoc]
    obtain ⟨rfl, _⟩ := eq_of_byteSize_eq hopened ((byteSize_opening front).trans hstart.symm)
    obtain ⟨hclosed, rfl⟩ := eq_of_byteSize_eq (hslice.symm.trans hlast) hstop
    have hbehind' : closed ++ [')'] ++ behind = all ++ rest := by
      rw [List.append_assoc, List.singleton_append, ← hlast, hall]
    obtain ⟨_, rfl⟩ := eq_of_byteSize_eq hbehind' ((byteSize_closing closed).trans hend.symm)
    refine ⟨front, ?_, hfront, hbehind⟩
    rw [hslice]
    simp
  · rintro ⟨front, rfl, hfront, hrest⟩
    have hopening : firstOffset? '(' (front ++ '(' :: (command ++ ')' :: rest)) =
        some (byteSize front) := firstOffset?_eq_some_iff.mpr ⟨front, _, rfl, hfront, rfl⟩
    have hclosing : lastOffset? ')' (front ++ '(' :: (command ++ ')' :: rest)) =
        some (byteSize (front ++ '(' :: command)) :=
      lastOffset?_eq_some_iff.mpr ⟨front ++ '(' :: command, rest, by simp, hrest, rfl⟩
    have hcommand : slice? (byteSize front + 1) (byteSize (front ++ '(' :: command))
        (front ++ '(' :: (command ++ ')' :: rest)) = some command :=
      slice?_eq_some_iff.mpr
        ⟨front ++ ['('], ')' :: rest, by simp, byteSize_opening front, by simp⟩
    have hbehind : sliceFrom? (byteSize (front ++ '(' :: command) + 1)
        (front ++ '(' :: (command ++ ')' :: rest)) = some rest :=
      sliceFrom?_eq_some_iff.mpr ⟨front ++ '(' :: command ++ [')'], by simp, byteSize_closing _⟩
    simp only [splitCommand, hopening, hclosing, hcommand, hbehind, Option.bind_eq_bind,
      Option.bind_some]
    rfl

/-- A line without an opening parenthesis in front of its last closing one has no command. -/
theorem splitCommand_eq_none {front back : List Char} (hfront : '(' ∉ front) (hback : ')' ∉ back) :
    splitCommand (front ++ ')' :: back) = none := by
  rw [Option.eq_none_iff_forall_ne_some]
  rintro ⟨command, rest⟩ h
  obtain ⟨before, hline, _, hrest⟩ := splitCommand_eq_some_iff.mp h
  rw [← List.cons_append, ← List.append_assoc] at hline
  -- Both are splits at the last closing parenthesis.
  have hlast : lastOffset? ')' (front ++ ')' :: back) = some (byteSize front) :=
    lastOffset?_eq_some_iff.mpr ⟨front, back, rfl, hback, rfl⟩
  rw [lastOffset?_eq_some_iff.mpr ⟨before ++ '(' :: command, rest, hline, hrest, rfl⟩] at hlast
  obtain ⟨rfl, _⟩ := eq_of_byteSize_eq hline.symm (Option.some.inj hlast)
  exact hfront List.mem_append_cons_self

/-! ## Offsets that are words -/

/-- Splits a line as `splitCommand` does, with offsets that are words. -/
def splitCommandChecked (line : List Char) :
    Except Panic (Option (List Char × List Char)) :=
  match firstOffset? '(' line, lastOffset? ')' line with
  | some opening, some closing => do
    let start ← addWords (.ofNat opening) 1
    match slice? start.toNat closing line with
    | some command => do
      let behind ← addWords (.ofNat closing) 1
      return (sliceFrom? behind.toNat line).map (command, ·)
    | none => return none
  | _, _ => return none

/-- Reads a line as `parse` does, with offsets that are words. -/
def parseChecked (pid : Int32) (line : String) : Except Panic (Option ProcessRecord) :=
  (splitCommandChecked line.toList).map (·.bind (ofParts pid))

/-- The offset behind a character is a word if the size of the text is. -/
private theorem addWords_offset {line front back : List Char} {c : Char}
    (hline : line = front ++ c :: back) (hsize : byteSize line < UInt64.size) :
    ∃ next, addWords (.ofNat (byteSize front)) 1 = .ok next ∧ next.toNat = byteSize front + 1 := by
  have hpos := c.utf8Size_pos
  have hnext : byteSize front + 1 < UInt64.size := by
    rw [hline, byteSize_append, byteSize_cons] at hsize
    omega
  have htoNat : (UInt64.ofNat (byteSize front)).toNat = byteSize front :=
    UInt64.toNat_ofNat_of_lt' (by omega)
  have hsum : (UInt64.ofNat (byteSize front)).toNat + (1 : UInt64).toNat < UInt64.size := by
    rw [htoNat]
    exact hnext
  refine ⟨_, if_pos hsum, ?_⟩
  rw [UInt64.toNat_add, htoNat]
  exact Nat.mod_eq_of_lt hnext

theorem splitCommandChecked_eq {line : List Char} (hsize : byteSize line < UInt64.size) :
    splitCommandChecked line = .ok (splitCommand line) := by
  rw [splitCommandChecked, splitCommand]
  cases hopening : firstOffset? '(' line with
  | none => rfl
  | some opening =>
    cases hclosing : lastOffset? ')' line with
    | none => rfl
    | some closing =>
      obtain ⟨front, opened, hfirst, _, rfl⟩ := firstOffset?_eq_some_iff.mp hopening
      obtain ⟨closed, behind, hlast, _, rfl⟩ := lastOffset?_eq_some_iff.mp hclosing
      obtain ⟨start, hstart, hstartNat⟩ := addWords_offset hfirst hsize
      obtain ⟨next, hnext, hnextNat⟩ := addWords_offset hlast hsize
      simp only [hstart, bind, Except.bind, hstartNat, Option.bind_some]
      cases slice? (byteSize front + 1) (byteSize closed) line with
      | none => rfl
      | some command =>
        simp only [hnext, hnextNat, Option.bind_some]
        cases sliceFrom? (byteSize closed + 1) line <;> rfl

/-! ## Entries -/

/-- A text that can be the state of a process. -/
structure IsState (state : List Char) : Prop where
  /-- It is not empty. -/
  nonempty : state ≠ []
  /-- It has no blanks. -/
  unbroken : ∀ c ∈ state, isBlank c = false
  /-- It has no closing parenthesis. -/
  unclosed : ')' ∉ state

instance (state : List Char) : Decidable (IsState state) :=
  decidable_of_iff (state ≠ [] ∧ state.all (isBlank · = false) = true ∧ ')' ∉ state)
    ⟨fun ⟨hne, hall, hclosing⟩ => ⟨hne, by simpa using List.all_eq_true.mp hall, hclosing⟩,
      fun h => ⟨h.nonempty, by simpa using h.unbroken, h.unclosed⟩⟩

/-- The line about a process, with what else it says at its end. -/
def statLine (p : ProcessRecord) (rest : String) : String :=
  toString p.pid ++ " (" ++ p.command ++ ") " ++ p.state ++ " " ++ toString p.ppid ++ " " ++ rest

/-- The entry of a process: its number is the name, and its line has no closing parenthesis behind
the command. -/
inductive Tells (p : ProcessRecord) : ProcessEntry → Prop where
  /-- The name and the line. -/
  | entry {rest : String} (hstate : IsState p.state.toList) (hrest : ')' ∉ rest.toList) :
      Tells p ⟨some (toString p.pid), some (p.statLine rest)⟩

/-- An entry that belongs to no process. -/
inductive TellsNothing : ProcessEntry → Prop where
  /-- Its name is no text. -/
  | nameless (line : Option String) : TellsNothing ⟨none, line⟩
  /-- Its name spells no signed number. -/
  | unnumbered {name : String} (hname : ∀ n : Int32, ¬ SpellsInteger name.toList n.toInt)
      (line : Option String) : TellsNothing ⟨some name, line⟩
  /-- There is no line to read. -/
  | lineless (name : Option String) : TellsNothing ⟨name, none⟩

/-- The entries are those of a table of processes, in any order and mixed with others. -/
def Tabulates (table : List ProcessRecord) (entries : List ProcessEntry) : Prop :=
  ∃ told others, entries.Perm (told ++ others) ∧ List.Forall₂ Tells table told ∧
    ∀ entry ∈ others, TellsNothing entry

private theorem isBlank_of_isDigit {c : Char} (h : c.isDigit = true) : isBlank c = false := by
  have hlow : 48 ≤ c.toNat := (isDigit_iff.mp h).1
  have hhigh : c.toNat ≤ 57 := (isDigit_iff.mp h).2
  simp only [isBlank, Bool.or_eq_false_iff, Bool.and_eq_false_iff, decide_eq_false_iff_not]
  omega

/-- A printed number has no blanks and no parentheses. -/
theorem plain_of_mem_toString {n : Int32} {c : Char} (h : c ∈ (toString n).toList) :
    isBlank c = false ∧ c ≠ '(' ∧ c ≠ ')' := by
  have hchars : (toString n).toList = _ := toList_toString_int n.toInt
  rw [hchars, List.mem_append] at h
  rcases h with hminus | hdigit
  · have hc : c = '-' := by
      split at hminus
      · exact List.mem_singleton.mp hminus
      · cases hminus
    subst hc
    decide
  · have hdigit := allDigits_toDigits _ c hdigit
    refine ⟨isBlank_of_isDigit hdigit, ?_, ?_⟩ <;> rintro rfl <;> exact absurd hdigit (by decide)

/-- The part of the line behind the command. -/
private def afterCommand (p : ProcessRecord) (rest : List Char) : List Char :=
  ' ' :: (p.state.toList ++ ' ' :: ((toString p.ppid).toList ++ ' ' :: rest))

private theorem toList_statLine (p : ProcessRecord) (rest : String) :
    (p.statLine rest).toList =
      ((toString p.pid).toList ++ [' ']) ++
        '(' :: (p.command.toList ++ ')' :: p.afterCommand rest.toList) := by
  simp [statLine, afterCommand]

private theorem fieldsOf_afterCommand {p : ProcessRecord} (hstate : IsState p.state.toList)
    (rest : List Char) :
    fieldsOf (p.afterCommand rest) =
      p.state.toList :: (toString p.ppid).toList :: fieldsOf rest := by
  have hspace : isBlank ' ' = true := by decide
  have hppid : (toString p.ppid).toList ≠ [] := by
    have hchars : (toString p.ppid).toList = _ := toList_toString_int p.ppid.toInt
    rw [hchars]
    exact List.append_ne_nil_of_right_ne_nil _ Nat.toDigits_ne_nil
  rw [afterCommand, ← List.nil_append (' ' :: _), fieldsOf_append_cons hspace,
    fieldsOf_append_cons hspace, fieldsOf_append_cons hspace, fieldsOf_nil,
    fieldsOf_word hstate.nonempty hstate.unbroken,
    fieldsOf_word hppid fun c hc => (plain_of_mem_toString hc).1]
  rfl

/-- The line about a process is read back. -/
theorem parse_statLine (p : ProcessRecord) {rest : String} (hstate : IsState p.state.toList)
    (hrest : ')' ∉ rest.toList) : parse p.pid (p.statLine rest) = some p := by
  have hfront : '(' ∉ (toString p.pid).toList ++ [' '] := by
    intro hmem
    rcases List.mem_append.mp hmem with hmem | hmem
    · exact (plain_of_mem_toString hmem).2.1 rfl
    · exact absurd hmem (by decide)
  have hbehind : ')' ∉ p.afterCommand rest.toList := by
    have hppid : ')' ∉ (toString p.ppid).toList := fun hmem => (plain_of_mem_toString hmem).2.2 rfl
    simp [afterCommand, hstate.unclosed, hppid, hrest]
  have hsplit : splitCommand (p.statLine rest).toList =
      some (p.command.toList, p.afterCommand rest.toList) :=
    splitCommand_eq_some_iff.mpr ⟨_, toList_statLine p rest, hfront, hbehind⟩
  rw [parse, hsplit, Option.bind_some, ofParts, fieldsOf_afterCommand hstate]
  simp only [String.ofList_toList, readInt32_toString]

/-- The entry of a process lists that process. -/
theorem Tells.ofEntry_eq {p : ProcessRecord} {entry : ProcessEntry} (h : Tells p entry) :
    ofEntry entry = some p := by
  cases h with
  | @entry rest hstate hrest =>
    have hpid : pidOfName (toString p.pid) = some p.pid := by
      rw [pidOfName, readInt32_toString]
    simp only [ofEntry, Option.bind_eq_bind, Option.bind_some, hpid]
    exact parse_statLine p hstate hrest

theorem TellsNothing.ofEntry_eq {entry : ProcessEntry} (h : TellsNothing entry) :
    ofEntry entry = none := by
  cases h with
  | nameless line => rfl
  | @unnumbered name hname line =>
    have hpid : pidOfName name = none := by
      rw [pidOfName]
      split
      · next n hread => exact absurd (readInt32_eq_ok_iff.mp hread) (hname n)
      · rfl
    simp [ofEntry, hpid]
  | lineless name => simp [ofEntry]

private theorem filterMap_of_tells {table : List ProcessRecord} {told : List ProcessEntry}
    (h : List.Forall₂ Tells table told) : told.filterMap ofEntry = table := by
  induction h with
  | nil => rfl
  | cons hfirst _ ih => rw [List.filterMap_cons_some hfirst.ofEntry_eq, ih]

/-- Entries list the processes that they are about. -/
theorem Tabulates.list_perm {table : List ProcessRecord} {entries : List ProcessEntry}
    (h : Tabulates table entries) : (list entries).Perm table := by
  obtain ⟨told, others, hperm, htold, hothers⟩ := h
  have hnothing : others.filterMap ofEntry = [] :=
    List.filterMap_eq_nil_iff.mpr fun entry hentry => (hothers entry hentry).ofEntry_eq
  have hlist := hperm.filterMap ofEntry
  rwa [List.filterMap_append, filterMap_of_tells htold, hnothing, List.append_nil] at hlist

end ProcessRecord

open ProcessRecord

/-- **A process table is listed as it stands.** The entries of a directory are those of a table of
processes, whose commands may be any texts, in any order and mixed with entries whose names are no
signed numbers or that have no line to read. Then exactly the processes of the table are listed,
each as often as it is there, with its number, command, state and parent. Any line at all tells a
process or none: no offset leaves its range as long as the size of the line is a word, and a line
whose last closing parenthesis stands before any opening one tells none. -/
theorem process_table_listed {table : List ProcessRecord} {entries : List ProcessEntry}
    (h : Tabulates table entries) :
    (list entries).Perm table ∧
      (∀ (m : Machine) (root : String) (names : List String), m.list root = .ok names →
        names.map (m.processEntry root) = entries →
          ∃ records, m.processes root = .ok records ∧ records.Perm table) ∧
      (∀ (pid : Int32) (line : String), line.utf8ByteSize < UInt64.size →
        parseChecked pid line = .ok (parse pid line)) ∧
      ∀ (pid : Int32) (front back : List Char), '(' ∉ front → ')' ∉ back →
        parse pid (String.ofList (front ++ ')' :: back)) = none := by
  refine ⟨h.list_perm, ?_, ?_, ?_⟩
  · intro m root names hnames hentries
    refine ⟨list entries, ?_, h.list_perm⟩
    rw [Machine.processes, hnames, ← hentries]
  · intro pid line hsize
    rw [utf8ByteSize_eq_byteSize] at hsize
    rw [parseChecked, splitCommandChecked_eq hsize]
    rfl
  · intro pid front back hfront hback
    rw [parse, String.toList_ofList, splitCommand_eq_none hfront hback]
    rfl

/-- Two processes whose commands have parentheses and a line feed. -/
def oddCommands : List ProcessRecord :=
  [⟨42, 1, "my (odd\n) proc", "S"⟩, ⟨7, -1, ")(", "R"⟩]

/-- A machine with a directory of these processes, in which two more entries have no line. -/
def oddMachine : Machine where
  files := ⟨[(["p"], .directory), (["p", "sys"], .directory), (["p", "42"], .directory),
    (["p", "42", "stat"], .file "42 (my (odd\n) proc) S 1 42 42 0 -1".toUTF8),
    (["p", "7"], .directory), (["p", "7", "stat"], .file "7 ()() R -1 ".toUTF8),
    (["p", "99"], .directory)]⟩

/-- The processes are listed from the machine's files. -/
theorem process_table_listed_odd_commands :
    Tabulates oddCommands (["sys", "42", "7", "99"].map (oddMachine.processEntry "p")) ∧
      ∃ records, oddMachine.processes "p" = .ok records ∧ records.Perm oddCommands := by
  have hentries : ["sys", "42", "7", "99"].map (oddMachine.processEntry "p") =
      [⟨some "sys", none⟩, ⟨some "42", some "42 (my (odd\n) proc) S 1 42 42 0 -1"⟩,
        ⟨some "7", some "7 ()() R -1 "⟩, ⟨some "99", none⟩] := by rfl
  have hfirst : Tells ⟨42, 1, "my (odd\n) proc", "S"⟩
      ⟨some "42", some "42 (my (odd\n) proc) S 1 42 42 0 -1"⟩ :=
    @Tells.entry _ "42 42 0 -1" (by decide) (by decide)
  have hsecond : Tells ⟨7, -1, ")(", "R"⟩ ⟨some "7", some "7 ()() R -1 "⟩ :=
    @Tells.entry _ "" (by decide) (by decide)
  have htable : Tabulates oddCommands
      (["sys", "42", "7", "99"].map (oddMachine.processEntry "p")) := by
    rw [hentries]
    refine ⟨_, [⟨some "sys", none⟩, ⟨some "99", none⟩], by decide,
      .cons hfirst (.cons hsecond .nil), ?_⟩
    simp only [List.forall_mem_cons]
    exact ⟨.lineless _, .lineless _, List.forall_mem_nil _⟩
  exact ⟨htable, (process_table_listed htable).2.1 oddMachine "p" _ (by rfl) rfl⟩

end Periscope
