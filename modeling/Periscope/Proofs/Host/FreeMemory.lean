import Periscope.Host.FreeMemory
import Periscope.Proofs.Text.Numeral

/-!
# What the host's memory file says is free

The first line that tells a number of free kibibytes counts, and lines in front of it that only
begin like one are passed over. The number is told in bytes, and not every number has as many.
-/

namespace Periscope

/-- A line tells a number of free kibibytes: it starts with the key, and the first field behind the
key spells the number. -/
def FreeLine (n : UInt64) (line : List Char) : Prop :=
  ∃ rest word others, line = "MemFree:".toList ++ rest ∧ fieldsOf rest = word :: others ∧
    SpellsWord (String.ofList word) n

/-- A text tells a number of free kibibytes in a line, and none in the lines before. -/
def TellsFree (content : String) (n : UInt64) : Prop :=
  ∃ before line behind, linesOf content.toList = before ++ line :: behind ∧ FreeLine n line ∧
    ∀ earlier ∈ before, ∀ m, ¬ FreeLine m earlier

/-- What is behind a prefix. -/
theorem dropPrefix?_eq_some_iff {front s rest : List Char} :
    dropPrefix? front s = some rest ↔ s = front ++ rest := by
  induction front generalizing s with
  | nil => simp [dropPrefix?]
  | cons c front ih =>
    cases s with
    | nil => simp [dropPrefix?]
    | cons d s =>
      rw [dropPrefix?]
      split
      · next hc => simp [ih, hc]
      · next hc => simp [Ne.symm hc]

/-- The kibibytes of a line are those that it tells. -/
theorem freeKibibytes_eq_some_iff {line : List Char} {n : UInt64} :
    freeKibibytes line = some n ↔ FreeLine n line := by
  simp only [freeKibibytes, FreeLine, ← readWord_eq_ok_iff]
  constructor
  · intro h
    obtain ⟨rest, hrest, h⟩ := Option.bind_eq_some_iff.mp h
    obtain ⟨word, hword, h⟩ := Option.bind_eq_some_iff.mp h
    obtain ⟨others, hfields⟩ := List.head?_eq_some_iff.mp hword
    split at h
    · next m hread =>
      obtain rfl := Option.some.inj h
      exact ⟨rest, word, others, dropPrefix?_eq_some_iff.mp hrest, hfields, hread⟩
    · cases h
  · rintro ⟨rest, word, others, hline, hfields, hread⟩
    have hrest := dropPrefix?_eq_some_iff.mpr hline
    simp only [hrest, hfields, hread, Option.bind_eq_bind, Option.bind_some, List.head?_cons]

theorem freeKibibytes_eq_none_iff {line : List Char} :
    freeKibibytes line = none ↔ ∀ n, ¬ FreeLine n line := by
  simp only [← freeKibibytes_eq_some_iff, Option.eq_none_iff_forall_ne_some, ne_eq]

/-- The first line that tells a number is the one that is found. -/
theorem findSome?_freeKibibytes_eq_some_iff {content : String} {n : UInt64} :
    (linesOf content.toList).findSome? freeKibibytes = some n ↔ TellsFree content n := by
  simp only [List.findSome?_eq_some_iff, freeKibibytes_eq_some_iff, freeKibibytes_eq_none_iff,
    TellsFree]

/-- No line is found if none tells a number. -/
theorem findSome?_freeKibibytes_eq_none_iff {content : String} :
    (linesOf content.toList).findSome? freeKibibytes = none ↔
      ∀ line ∈ linesOf content.toList, ∀ n, ¬ FreeLine n line := by
  simp only [List.findSome?_eq_none_iff, freeKibibytes_eq_none_iff]

/-- How reading the free memory ends, by the text of the file or the error in its place. -/
inductive FreeEnding (path : String) :
    Except IoError String → Except Panic (Except IoError UInt64) → Prop where
  /-- The file could not be read, and that is returned. -/
  | unread (cause : IoError) : FreeEnding path (.error cause) (.ok (.error cause))
  /-- No line tells a number. -/
  | missing {content : String}
      (hnone : ∀ line ∈ linesOf content.toList, ∀ n, ¬ FreeLine n line) :
      FreeEnding path (.ok content)
        (.ok (.error (.described .invalidData (path ++ ": " ++ "missing MemFree"))))
  /-- The first number that is told fits when it is counted in bytes. -/
  | told {content : String} {kibibytes bytes : UInt64} (htold : TellsFree content kibibytes)
      (hbytes : bytes.toNat = 1024 * kibibytes.toNat) :
      FreeEnding path (.ok content) (.ok (.ok bytes))
  /-- It does not fit, and the call is stopped. -/
  | tooLarge {content : String} {kibibytes : UInt64} (htold : TellsFree content kibibytes)
      (hsize : UInt64.size ≤ 1024 * kibibytes.toNat) :
      FreeEnding path (.ok content) (.error .productOverflow)

/-- Kibibytes are counted in bytes if their number is a word. -/
private theorem multiplyWords_of_lt {kibibytes : UInt64}
    (hfits : 1024 * kibibytes.toNat < UInt64.size) : ∃ bytes,
      multiplyWords kibibytes 1024 = .ok bytes ∧ bytes.toNat = 1024 * kibibytes.toNat := by
  rw [Nat.mul_comm] at hfits
  refine ⟨kibibytes * 1024, if_pos hfits, ?_⟩
  have hthousand : (1024 : UInt64).toNat = 1024 := rfl
  rw [UInt64.toNat_mul, hthousand, Nat.mod_eq_of_lt hfits, Nat.mul_comm]

private theorem multiplyWords_of_le {kibibytes : UInt64}
    (hsize : UInt64.size ≤ 1024 * kibibytes.toNat) :
    multiplyWords kibibytes 1024 = .error .productOverflow := by
  rw [Nat.mul_comm] at hsize
  exact if_neg (Nat.not_lt.mpr hsize)

/-- Reading the free memory ends in one of these ways. -/
private theorem freeEnding_readFreeMemory (path : String) (text : Except IoError String) :
    FreeEnding path text (readFreeMemory path text) := by
  cases text with
  | error cause => exact .unread cause
  | ok content =>
    rw [readFreeMemory]
    cases hfound : (linesOf content.toList).findSome? freeKibibytes with
    | none => exact .missing (findSome?_freeKibibytes_eq_none_iff.mp hfound)
    | some kibibytes =>
      have htold := findSome?_freeKibibytes_eq_some_iff.mp hfound
      dsimp only
      rcases Nat.lt_or_ge (1024 * kibibytes.toNat) UInt64.size with hfits | hsize
      · obtain ⟨bytes, hproduct, hbytes⟩ := multiplyWords_of_lt hfits
        rw [hproduct]
        exact .told htold hbytes
      · rw [multiplyWords_of_le hsize]
        exact .tooLarge htold hsize

/-- There is one ending for each text. -/
private theorem FreeEnding.eq_readFreeMemory {path : String} {text : Except IoError String}
    {result : Except Panic (Except IoError UInt64)} (h : FreeEnding path text result) :
    readFreeMemory path text = result := by
  cases h with
  | unread cause => rfl
  | missing hnone =>
    rw [readFreeMemory, findSome?_freeKibibytes_eq_none_iff.mpr hnone]
    rfl
  | @told content kibibytes bytes htold hbytes =>
    obtain ⟨product, hproduct, heq⟩ := multiplyWords_of_lt (hbytes ▸ bytes.toNat_lt_size)
    obtain rfl : product = bytes := UInt64.toNat_inj.mp (heq.trans hbytes.symm)
    rw [readFreeMemory, findSome?_freeKibibytes_eq_some_iff.mpr htold]
    dsimp only
    rw [hproduct]
    rfl
  | tooLarge htold hsize =>
    rw [readFreeMemory, findSome?_freeKibibytes_eq_some_iff.mpr htold]
    dsimp only
    rw [multiplyWords_of_le hsize]
    rfl

/-- The free memory is what the file says, and the call is stopped if that is too much. -/
theorem readFreeMemory_eq_iff {path : String} {text : Except IoError String}
    {result : Except Panic (Except IoError UInt64)} :
    readFreeMemory path text = result ↔ FreeEnding path text result := by
  refine ⟨?_, FreeEnding.eq_readFreeMemory⟩
  rintro rfl
  exact freeEnding_readFreeMemory path text

end Periscope
