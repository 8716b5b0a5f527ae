import Mathlib.Data.List.Forall2
import Periscope.Machine
import Periscope.Proofs.Sampling.Course

/-!
# What the usage file of a container tells

In the first layout the file is a row of counters, and the place of a counter in the row is the
number of its core. So the row is read as a whole or not at all: one word that is no counter spoils
the file, and the first such word is reported. In the second layout the file has keys, and one of
them tells the time of all cores together.
-/

namespace Periscope

/-! ## Rows -/

/-- Steps over a list come through just if each of them does, and what they come to is in the order
of the list. -/
private theorem mapM_eq_ok_iff {ε α β : Type} {f : α → Except ε β} {xs : List α} {ys : List β} :
    xs.mapM f = .ok ys ↔ List.Forall₂ (fun x y => f x = .ok y) xs ys := by
  induction xs generalizing ys with
  | nil => simp [pure, Except.pure, eq_comm]
  | cons x xs ih =>
    rw [List.mapM_cons, List.forall₂_cons_left_iff]
    cases f x with
    | error e => simp [bind, Except.bind]
    | ok y =>
      simp only [← ih]
      cases xs.mapM f with
      | error e => simp [bind, Except.bind]
      | ok others => simp [bind, Except.bind, pure, Except.pure, eq_comm]

/-- Steps over a list end with the first one that fails. -/
private theorem mapM_eq_error_iff {ε α β : Type} {f : α → Except ε β} {xs : List α} {e : ε} :
    xs.mapM f = .error e ↔ ∃ front x back ys, xs = front ++ x :: back ∧
      List.Forall₂ (fun x y => f x = .ok y) front ys ∧ f x = .error e := by
  constructor
  · intro h
    induction xs with
    | nil => cases h
    | cons x xs ih =>
      rw [List.mapM_cons] at h
      cases hx : f x with
      | error e' =>
        rw [hx] at h
        obtain rfl := Except.error.inj h
        exact ⟨[], x, xs, [], rfl, .nil, hx⟩
      | ok y =>
        cases hxs : xs.mapM f with
        | error e' =>
          rw [hx, hxs] at h
          obtain rfl := Except.error.inj h
          obtain ⟨front, bad, back, ys, rfl, hfront, hbad⟩ := ih hxs
          exact ⟨x :: front, bad, back, y :: ys, rfl, .cons hx hfront, hbad⟩
        | ok ys =>
          rw [hx, hxs] at h
          cases h
  · rintro ⟨front, x, back, ys, rfl, hfront, hx⟩
    rw [List.mapM_append, mapM_eq_ok_iff.mpr hfront, List.mapM_cons, hx]
    rfl

namespace AccountingFile

variable {path content : String}

/-- The numbers of a row are what its words spell, one after the other. -/
theorem row_eq_ok_iff {numbers : List UInt64} :
    row path content = .ok numbers ↔ ∃ words : List String,
      LaidOut (words.map String.toList) content.toList ∧
        List.Forall₂ SpellsWord words numbers := by
  simp only [row, mapM_eq_ok_iff, number_eq_ok_iff, ← fields_eq_iff, exists_eq_left']

/-- The first word that spells no number is an error of the file. -/
theorem row_eq_error_iff {cause : IoError} :
    row path content = .error cause ↔ ∃ (front : List String) (word : String) (back : List String)
      (numbers : List UInt64) (e : NumeralError),
      LaidOut ((front ++ word :: back).map String.toList) content.toList ∧
        List.Forall₂ SpellsWord front numbers ∧ MisspellsWord word e ∧
          cause = invalid path e.message := by
  simp only [row, mapM_eq_error_iff, number_eq_ok_iff, number_eq_error_iff, ← fields_eq_iff]
  constructor
  · rintro ⟨front, word, back, numbers, hwords, hfront, e, hword⟩
    exact ⟨front, word, back, numbers, e, hwords, hfront, hword⟩
  · rintro ⟨front, word, back, numbers, e, hwords, hfront, hword⟩
    exact ⟨front, word, back, numbers, hwords, hfront, e, hword⟩

end AccountingFile

/-! ## Usage files -/

/-- The microseconds in nanoseconds, or the greatest word if there are more. -/
def InNanos (micros nanos : UInt64) : Prop :=
  nanos.toNat = min (1000 * micros.toNat) (UInt64.size - 1)

/-- What the text of a usage file comes to, or the error that is in its place. -/
inductive UsageEnding (files : CpuFiles) :
    Except IoError String → Except IoError (List UInt64) → Prop where
  /-- The file could not be read. -/
  | unread (cause : IoError) : UsageEnding files (.error cause)
      (.error (.described cause.kind (files.usage ++ ": " ++ cause.message)))
  /-- The words of a row spell the counters, one after the other. -/
  | row {content : String} {words : List String} {counters : List UInt64}
      (hlayout : files.layout = .v1) (hwords : LaidOut (words.map String.toList) content.toList)
      (hcounters : List.Forall₂ SpellsWord words counters) :
      UsageEnding files (.ok content) (.ok counters)
  /-- The first word of a row that spells no counter spoils it. -/
  | spoiled {content : String} {front back : List String} {word : String}
      {counters : List UInt64} {e : NumeralError} (hlayout : files.layout = .v1)
      (hwords : LaidOut ((front ++ word :: back).map String.toList) content.toList)
      (hfront : List.Forall₂ SpellsWord front counters) (hword : MisspellsWord word e) :
      UsageEnding files (.ok content)
        (.error (.described .invalidData (files.usage ++ ": " ++ e.message)))
  /-- The last number of the key is the only counter. -/
  | total {content : String} {micros nanos : UInt64} (hlayout : files.layout = .v2)
      (hmicros : LastNumber content "usage_usec" micros) (hnanos : InNanos micros nanos) :
      UsageEnding files (.ok content) (.ok [nanos])
  /-- The key has no number. -/
  | missing {content : String} (hlayout : files.layout = .v2)
      (hnone : ∀ micros, ¬ LastNumber content "usage_usec" micros) :
      UsageEnding files (.ok content)
        (.error (.described .invalidData (files.usage ++ ": " ++ "missing key usage_usec")))

theorem inNanos_iff {micros nanos : UInt64} :
    InNanos micros nanos ↔ multiplySaturating micros 1000 = nanos := by
  have hthousand : (1000 : UInt64).toNat = 1000 := rfl
  rw [InNanos, ← UInt64.toNat_inj, toNat_multiplySaturating, hthousand, Nat.mul_comm, eq_comm]

namespace CpuFiles

variable {files : CpuFiles} {content : String}

/-- The counters of the first layout are a row. -/
theorem counters_eq_row (hlayout : files.layout = .v1) :
    files.counters content = AccountingFile.row files.usage content := by
  rw [counters, hlayout]

/-- The only counter of the second layout is the number of a key. -/
theorem counters_eq_total (hlayout : files.layout = .v2) :
    files.counters content = (AccountingFile.required files.usage content "usage_usec").map
      fun micros => [multiplySaturating micros 1000] := by
  rw [counters, hlayout]
  rfl

/-- The counters that a text has, or its error, are the ending of reading it. -/
private theorem usageEnding_counters (files : CpuFiles) (content : String) :
    UsageEnding files (.ok content) (files.counters content) := by
  cases hlayout : files.layout with
  | v1 =>
    rw [counters_eq_row hlayout]
    cases hrow : AccountingFile.row files.usage content with
    | ok counters =>
      obtain ⟨words, hwords, hcounters⟩ := AccountingFile.row_eq_ok_iff.mp hrow
      exact .row hlayout hwords hcounters
    | error cause =>
      obtain ⟨front, word, back, counters, e, hwords, hfront, hword, rfl⟩ :=
        AccountingFile.row_eq_error_iff.mp hrow
      exact .spoiled hlayout hwords hfront hword
  | v2 =>
    rw [counters_eq_total hlayout]
    cases htotal : AccountingFile.required files.usage content "usage_usec" with
    | ok micros =>
      rw [AccountingFile.required_eq_ok_iff, keyed_iff_lastNumber] at htotal
      exact .total hlayout htotal (inNanos_iff.mpr rfl)
    | error cause =>
      simp only [AccountingFile.required_eq_error_iff, keyed_iff_lastNumber] at htotal
      obtain ⟨hnone, rfl⟩ := htotal
      exact .missing hlayout hnone

end CpuFiles

/-- There is one ending for each text. -/
private theorem UsageEnding.valueOf_eq {files : CpuFiles} {text : Except IoError String}
    {result : Except IoError (List UInt64)} (h : UsageEnding files text result) :
    AccountingFile.valueOf files.usage files.counters text = result := by
  cases h with
  | unread cause => rfl
  | row hlayout hwords hcounters =>
    rw [AccountingFile.valueOf, CpuFiles.counters_eq_row hlayout, AccountingFile.row_eq_ok_iff]
    exact ⟨_, hwords, hcounters⟩
  | spoiled hlayout hwords hfront hword =>
    rw [AccountingFile.valueOf, CpuFiles.counters_eq_row hlayout, AccountingFile.row_eq_error_iff]
    exact ⟨_, _, _, _, _, hwords, hfront, hword, rfl⟩
  | @total content micros nanos hlayout hmicros hnanos =>
    have hfound : AccountingFile.required files.usage content "usage_usec" = .ok micros :=
      AccountingFile.required_eq_ok_iff.mpr (keyed_iff_lastNumber.mpr hmicros)
    rw [AccountingFile.valueOf, CpuFiles.counters_eq_total hlayout, hfound, Except.map,
      inNanos_iff.mp hnanos]
  | missing hlayout hnone =>
    simp only [← keyed_iff_lastNumber] at hnone
    rw [AccountingFile.valueOf, CpuFiles.counters_eq_total hlayout,
      AccountingFile.required_eq_error_iff.mpr ⟨hnone, rfl⟩]
    rfl

/-- What a file comes to is the ending of reading it. -/
theorem usageEnding_iff {files : CpuFiles} {text : Except IoError String}
    {result : Except IoError (List UInt64)} :
    UsageEnding files text result ↔
      AccountingFile.valueOf files.usage files.counters text = result := by
  refine ⟨UsageEnding.valueOf_eq, ?_⟩
  rintro rfl
  cases text with
  | error cause => exact .unread cause
  | ok content => exact CpuFiles.usageEnding_counters files content

/-- A printed row of counters is read. -/
theorem UsageEnding.printed {files : CpuFiles} {content : String} {counters : List UInt64}
    (hlayout : files.layout = .v1)
    (hwords : LaidOut ((counters.map toString).map String.toList) content.toList) :
    UsageEnding files (.ok content) (.ok counters) := by
  refine .row hlayout hwords (List.forall₂_map_left_iff.mpr (List.forall₂_same.mpr ?_))
  exact fun n _ => spellsWord_toString n

/-- If a word of a row spells no counter, the first such word is reported. -/
theorem exists_usageEnding_spoiled {files : CpuFiles} {content word : String} {words : List String}
    (hlayout : files.layout = .v1) (hwords : LaidOut (words.map String.toList) content.toList)
    (hmem : word ∈ words) (hword : ∀ n, ¬ SpellsWord word n) :
    ∃ front bad back e, words = front ++ bad :: back ∧ (∀ good ∈ front, ∃ n, SpellsWord good n) ∧
      MisspellsWord bad e ∧ UsageEnding files (.ok content)
        (.error (.described .invalidData (files.usage ++ ": " ++ e.message))) := by
  have hgood {front : List String} {counters : List UInt64}
      (h : List.Forall₂ SpellsWord front counters) : ∀ good ∈ front, ∃ n, SpellsWord good n :=
    ((List.forall₂_and_left _ _).mp (h.imp fun _ n hn => ⟨⟨n, hn⟩, hn⟩)).1
  have hsame {others : List String} (h : LaidOut (others.map String.toList) content.toList) :
      words = others := (fields_eq_iff.mpr hwords).symm.trans (fields_eq_iff.mpr h)
  cases hrow : AccountingFile.row files.usage content with
  | ok counters =>
    obtain ⟨others, hothers, hcounters⟩ := AccountingFile.row_eq_ok_iff.mp hrow
    obtain ⟨n, hn⟩ := hgood hcounters word (hsame hothers ▸ hmem)
    exact absurd hn (hword n)
  | error cause =>
    obtain ⟨front, bad, back, counters, e, hothers, hfront, hbad, _⟩ :=
      AccountingFile.row_eq_error_iff.mp hrow
    exact ⟨front, bad, back, e, hsame hothers, hgood hfront, hbad,
      .spoiled hlayout hothers hfront hbad⟩

namespace Sampler

variable {σ : Type} {source : SampleSource σ} {files : CpuFiles} {s : Session σ}

/-- Reading the counters asks the world for the text of the usage file, and does nothing else. -/
theorem readCounters_eq_iff {r : Except Halt (Except IoError (List UInt64))} {s' : Session σ} :
    readCounters source files s = (r, s') ↔
      s' = { s with world := (source.readText files.usage s.world).2 } ∧
        ∃ result, r = .ok result ∧
          UsageEnding files (source.readText files.usage s.world).1 result := by
  rw [readCounters, readFile_apply]
  constructor
  · intro h
    obtain ⟨rfl, rfl⟩ := Prod.mk.inj h
    exact ⟨rfl, _, rfl, usageEnding_iff.mpr rfl⟩
  · rintro ⟨rfl, result, rfl, hending⟩
    rw [usageEnding_iff.mp hending]

/-- **A usage file is read as a whole or not at all.** Reading the counters of a container always
returns, and what it returns is decided by the layout and the text of the file, or the error in its
place. In the first layout counters that are printed with any blanks around them, and at least one
between each two, are read in their order, each in its place. If a word of the file spells no
counter, there are no counters at all, and the error of the data says what is wrong with the first
such word. In the second layout there is one counter: the last number of the key, in nanoseconds and
no more than the greatest word, or an error of the data that names the key. -/
theorem usage_file_read {σ : Type} (source : SampleSource σ) (files : CpuFiles) (s : Session σ) :
    let text := (source.readText files.usage s.world).1
    let after : Session σ := { s with world := (source.readText files.usage s.world).2 }
    (∀ r s', readCounters source files s = (r, s') ↔
      s' = after ∧ ∃ result, r = .ok result ∧ UsageEnding files text result) ∧
    (∀ (counters : List UInt64) content, files.layout = .v1 → text = .ok content →
      LaidOut ((counters.map toString).map String.toList) content.toList →
        readCounters source files s = (.ok (.ok counters), after)) ∧
    ∀ words content word, files.layout = .v1 → text = .ok content →
      LaidOut (words.map String.toList) content.toList → word ∈ words →
        (∀ n, ¬ SpellsWord word n) → ∃ front bad back e, words = front ++ bad :: back ∧
          (∀ good ∈ front, ∃ n, SpellsWord good n) ∧ MisspellsWord bad e ∧
            readCounters source files s =
              (.ok (.error (.described .invalidData (files.usage ++ ": " ++ e.message))), after) := by
  intro text after
  refine ⟨fun r s' => readCounters_eq_iff, ?_, ?_⟩
  · intro counters content hlayout htext hwords
    have hending : UsageEnding files text (.ok counters) := htext ▸ .printed hlayout hwords
    exact readCounters_eq_iff.mpr ⟨rfl, _, rfl, hending⟩
  · intro words content word hlayout htext hwords hmem hword
    obtain ⟨front, bad, back, e, hsplit, hgood, hbad, hending⟩ :=
      exists_usageEnding_spoiled hlayout hwords hmem hword
    rw [← htext] at hending
    exact ⟨front, bad, back, e, hsplit, hgood, hbad,
      readCounters_eq_iff.mpr ⟨rfl, _, rfl, hending⟩⟩

/-- A row with other blanks around and between its counters, the greatest one among them. -/
private def sparseRow : String := "\u3000 7\u00a0\n18446744073709551615\u2028\t0\r\n"

/-- A row with a number that is one too large, between two counters. -/
private def spoiledRow : String := "7 18446744073709551616 0\n"

/-- A machine that has both rows in its files. -/
private def rowMachine : Machine where
  files := ⟨[(["sparse"], .file sparseRow.toUTF8), (["spoiled"], .file spoiledRow.toUTF8)]⟩

private theorem rowMachine_readText : rowMachine.readText "sparse" = .ok sparseRow ∧
    rowMachine.readText "spoiled" = .ok spoiledRow := ⟨rfl, rfl⟩

/-- The first row is read, and the second one is not. -/
theorem usage_file_read_rows :
    LaidOut ((([7, 18446744073709551615, 0] : List UInt64).map toString).map String.toList)
        sparseRow.toList ∧
      readCounters Machine.sampleSource ⟨"sparse", "stat", .v1⟩ { world := rowMachine } =
        (.ok (.ok [7, 18446744073709551615, 0]), { world := rowMachine }) ∧
      LaidOut (["7", "18446744073709551616", "0"].map String.toList) spoiledRow.toList ∧
      (∀ n, ¬ SpellsWord "18446744073709551616" n) ∧
      ∃ e : NumeralError,
        readCounters Machine.sampleSource ⟨"spoiled", "stat", .v1⟩ { world := rowMachine } =
          (.ok (.error (.described .invalidData ("spoiled" ++ ": " ++ e.message))),
            { world := rowMachine }) := by
  obtain ⟨hsparseText, hspoiledText⟩ := rowMachine_readText
  have hsparse : LaidOut
      ((([7, 18446744073709551615, 0] : List UInt64).map toString).map String.toList)
      sparseRow.toList := by decide
  have hspoiled : LaidOut (["7", "18446744073709551616", "0"].map String.toList)
      spoiledRow.toList := by decide
  have hlarge : ∀ n, ¬ SpellsWord "18446744073709551616" n := by
    intro n hn
    rw [← readWord_eq_ok_iff] at hn
    cases hn
  obtain ⟨_, hprinted, _⟩ :=
    usage_file_read Machine.sampleSource ⟨"sparse", "stat", .v1⟩ { world := rowMachine }
  obtain ⟨_, _, hbad⟩ :=
    usage_file_read Machine.sampleSource ⟨"spoiled", "stat", .v1⟩ { world := rowMachine }
  obtain ⟨_, _, _, e, _, _, _, hread⟩ := hbad _ spoiledRow _ rfl hspoiledText hspoiled
    (List.mem_cons_of_mem _ List.mem_cons_self) hlarge
  exact ⟨hsparse, hprinted _ sparseRow rfl hsparseText hsparse, hspoiled, hlarge, e, hread⟩

end Sampler

end Periscope
