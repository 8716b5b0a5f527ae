import Mathlib.Data.List.Induction
import Periscope.Text.Numeral

/-!
# What a numeral says

A numeral says the number of its digits. What is no numeral, or says a number out of range, is
wrong at its first character that is no digit or that leads beyond the bound, whichever comes
first.
-/

namespace Periscope

/-- Digits only make a number greater. -/
theorem le_ofDigitChars (digits : List Char) (value : Nat) :
    value ≤ Nat.ofDigitChars 10 digits value := by
  induction digits generalizing value with
  | nil => exact Nat.le_of_eq Nat.ofDigitChars_nil.symm
  | cons c digits ih =>
    rw [Nat.ofDigitChars_cons]
    exact Nat.le_trans (by omega) (ih _)

/-- Characters that are all digits. -/
def AllDigits (cs : List Char) : Prop := ∀ c ∈ cs, c.isDigit = true

theorem allDigits_cons {c : Char} {cs : List Char} :
    AllDigits (c :: cs) ↔ c.isDigit = true ∧ AllDigits cs := List.forall_mem_cons

theorem isDigit_iff {c : Char} : c.isDigit = true ↔ '0' ≤ c ∧ c ≤ '9' := by
  simp only [Char.isDigit, Bool.and_eq_true, decide_eq_true_eq]
  exact Iff.rfl

theorem digitValue?_of_isDigit {c : Char} (h : c.isDigit = true) :
    digitValue? c = some (c.toNat - '0'.toNat) := if_pos (isDigit_iff.mp h)

theorem digitValue?_of_not_isDigit {c : Char} (h : c.isDigit = false) : digitValue? c = none :=
  if_neg fun hrange => Bool.false_ne_true (h.symm.trans (isDigit_iff.mpr hrange))

/-- The number of a digit and those behind it. -/
theorem ofDigitChars_digit (c : Char) (digits : List Char) (value : Nat) :
    Nat.ofDigitChars 10 (c :: digits) value =
      Nat.ofDigitChars 10 digits (value * 10 + (c.toNat - '0'.toNat)) := by
  rw [Nat.ofDigitChars_cons, Nat.mul_comm 10 value]

section Digits

variable {bound value : Nat}

/-- A digit is read if the number so far is within the bound. -/
theorem readDigits_cons {c : Char} (hc : c.isDigit = true) (rest : List Char) :
    readDigits bound value (c :: rest) =
      if value * 10 + (c.toNat - '0'.toNat) ≤ bound then
        readDigits bound (value * 10 + (c.toNat - '0'.toNat)) rest
      else .error .tooLarge := by
  rw [readDigits, digitValue?_of_isDigit hc]

/-- Reading stops at a character that is no digit. -/
theorem readDigits_cons_of_not_isDigit {c : Char} (hc : c.isDigit = false) (rest : List Char) :
    readDigits bound value (c :: rest) = .error .invalidDigit := by
  rw [readDigits, digitValue?_of_not_isDigit hc]

/-- Digits are read if their number is within the bound. -/
theorem readDigits_eq_ok_iff {n : Nat} {digits : List Char} (hvalue : value ≤ bound) :
    readDigits bound value digits = .ok n ↔
      AllDigits digits ∧ Nat.ofDigitChars 10 digits value = n ∧ n ≤ bound := by
  induction digits generalizing value with
  | nil =>
    have hnil : readDigits bound value [] = .ok value := rfl
    rw [hnil, Except.ok.injEq, Nat.ofDigitChars_nil]
    exact ⟨fun h => ⟨List.forall_mem_nil _, h, h ▸ hvalue⟩, fun h => h.2.1⟩
  | cons c digits ih =>
    rw [allDigits_cons, ofDigitChars_digit]
    cases hc : c.isDigit with
    | false => simp [readDigits_cons_of_not_isDigit hc]
    | true =>
      rw [readDigits_cons hc]
      split
      · next hnext => simp only [ih hnext, true_and]
      · next hnext =>
        have hgreater := le_ofDigitChars digits (value * 10 + (c.toNat - '0'.toNat))
        refine ⟨nofun, fun ⟨_, hn, hle⟩ => ?_⟩
        omega

/-- What is wrong with digits that stand behind a number. -/
inductive DigitFault (bound value : Nat) : List Char → NumeralError → Prop where
  /-- The first character that is no digit stands behind a number within the bound. -/
  | invalidDigit {front rest : List Char} {c : Char} (hfront : AllDigits front)
      (hvalue : Nat.ofDigitChars 10 front value ≤ bound) (hc : c.isDigit = false) :
      DigitFault bound value (front ++ c :: rest) .invalidDigit
  /-- The digits in front are a number beyond the bound. -/
  | tooLarge {front rest : List Char} (hfront : AllDigits front)
      (hvalue : bound < Nat.ofDigitChars 10 front value) :
      DigitFault bound value (front ++ rest) .tooLarge

/-- What is wrong behind a digit is wrong with that digit in front. -/
theorem DigitFault.cons {c : Char} {digits : List Char} {e : NumeralError}
    (hc : c.isDigit = true)
    (h : DigitFault bound (value * 10 + (c.toNat - '0'.toNat)) digits e) :
    DigitFault bound value (c :: digits) e := by
  cases h with
  | invalidDigit hfront hvalue hd =>
    rw [← ofDigitChars_digit] at hvalue
    exact .invalidDigit (allDigits_cons.mpr ⟨hc, hfront⟩) hvalue hd
  | tooLarge hfront hvalue =>
    rw [← ofDigitChars_digit] at hvalue
    exact .tooLarge (allDigits_cons.mpr ⟨hc, hfront⟩) hvalue

/-- Digits within the bound are passed over. -/
theorem readDigits_append {front : List Char} (rest : List Char) (hfront : AllDigits front)
    (hle : Nat.ofDigitChars 10 front value ≤ bound) :
    readDigits bound value (front ++ rest) =
      readDigits bound (Nat.ofDigitChars 10 front value) rest := by
  induction front generalizing value with
  | nil => rw [List.nil_append, Nat.ofDigitChars_nil]
  | cons c front ih =>
    obtain ⟨hc, hfront⟩ := allDigits_cons.mp hfront
    rw [ofDigitChars_digit] at hle ⊢
    rw [List.cons_append, readDigits_cons hc, if_pos (Nat.le_trans (le_ofDigitChars front _) hle),
      ih hfront hle]

/-- Reading stops at the digit that leads beyond the bound. -/
theorem readDigits_append_of_lt {front : List Char} (rest : List Char) (hfront : AllDigits front)
    (hvalue : value ≤ bound) (hlt : bound < Nat.ofDigitChars 10 front value) :
    readDigits bound value (front ++ rest) = .error .tooLarge := by
  induction front generalizing value with
  | nil =>
    rw [Nat.ofDigitChars_nil] at hlt
    omega
  | cons c front ih =>
    obtain ⟨hc, hfront⟩ := allDigits_cons.mp hfront
    rw [ofDigitChars_digit] at hlt
    rw [List.cons_append, readDigits_cons hc]
    split
    · next hnext => exact ih hfront hnext hlt
    · rfl

/-- The fault that is reported is the first one. -/
theorem readDigits_eq_error_iff {digits : List Char} {e : NumeralError} (hvalue : value ≤ bound) :
    readDigits bound value digits = .error e ↔ DigitFault bound value digits e := by
  constructor
  · -- By induction on the digits, while the number in front of them stays within the bound.
    intro h
    induction digits generalizing value with
    | nil => cases h
    | cons c digits ih =>
      cases hc : c.isDigit with
      | false =>
        rw [readDigits_cons_of_not_isDigit hc] at h
        obtain rfl := Except.error.inj h
        have hfault : DigitFault bound value ([] ++ c :: digits) .invalidDigit :=
          .invalidDigit (List.forall_mem_nil _) (by rwa [Nat.ofDigitChars_nil]) hc
        exact hfault
      | true =>
        rw [readDigits_cons hc] at h
        split at h
        · next hnext => exact (ih hnext h).cons hc
        · next hnext =>
          obtain rfl := Except.error.inj h
          have hbeyond : bound < Nat.ofDigitChars 10 [c] value := by
            rw [ofDigitChars_digit, Nat.ofDigitChars_nil]
            omega
          have hfault : DigitFault bound value ([c] ++ digits) .tooLarge :=
            .tooLarge (List.forall_mem_singleton.mpr hc) hbeyond
          exact hfault
  · intro h
    cases h with
    | invalidDigit hfront hle hc =>
      rw [readDigits_append _ hfront hle, readDigits_cons_of_not_isDigit hc]
    | tooLarge hfront hlt => exact readDigits_append_of_lt _ hfront hvalue hlt

end Digits

/-- A text without the plus in front of it, if there is one. -/
def dropPlus : List Char → List Char
  | '+' :: digits => digits
  | digits => digits

/-- All that is dropped is a plus. -/
theorem dropPlus_eq_or (cs : List Char) : dropPlus cs = cs ∨ cs = '+' :: dropPlus cs := by
  unfold dropPlus
  split
  · exact .inr rfl
  · exact .inl rfl

/-- A text spells a number: at least one digit, perhaps behind a plus. -/
structure SpellsNumber (cs : List Char) (n : Nat) : Prop where
  /-- There is a digit. -/
  nonempty : dropPlus cs ≠ []
  /-- There is nothing but digits. -/
  digits : AllDigits (dropPlus cs)
  /-- They have this value. -/
  value : Nat.ofDigitChars 10 (dropPlus cs) 0 = n

/-- What is wrong with a text that spells no number within a bound. -/
inductive Misspells (bound : Nat) : List Char → NumeralError → Prop where
  /-- There is nothing. -/
  | empty : Misspells bound [] .empty
  /-- There is nothing behind a plus. -/
  | bare : Misspells bound ['+'] .invalidDigit
  /-- There is a fault in the digits. -/
  | digits {cs : List Char} {e : NumeralError} (hne : dropPlus cs ≠ [])
      (hfault : DigitFault bound 0 (dropPlus cs) e) : Misspells bound cs e

private theorem readUnsigned_digits (bound : Nat) {cs : List Char} (hne : dropPlus cs ≠ []) :
    readUnsigned bound cs = readDigits bound 0 (dropPlus cs) := by
  unfold readUnsigned
  split
  · exact absurd rfl hne
  · exact absurd rfl hne
  · rfl
  · next hplus =>
    unfold dropPlus
    split
    · exact absurd rfl (hplus _)
    · rfl

/-- A text without digits is empty or a plus. -/
private theorem eq_of_dropPlus_eq_nil {cs : List Char} (h : dropPlus cs = []) :
    cs = [] ∨ cs = ['+'] := by
  rcases dropPlus_eq_or cs with hplus | hplus
  · exact .inl (hplus.symm.trans h)
  · exact .inr (h ▸ hplus)

/-- A number is read exactly from what spells it, if it is within the bound. -/
theorem readUnsigned_eq_ok_iff {bound n : Nat} {cs : List Char} :
    readUnsigned bound cs = .ok n ↔ SpellsNumber cs n ∧ n ≤ bound := by
  by_cases hne : dropPlus cs = []
  · refine ⟨fun h => ?_, fun h => absurd hne h.1.nonempty⟩
    rcases eq_of_dropPlus_eq_nil hne with rfl | rfl <;> cases h
  · rw [readUnsigned_digits bound hne, readDigits_eq_ok_iff (Nat.zero_le bound)]
    exact ⟨fun ⟨hdigits, hvalue, hle⟩ => ⟨⟨hne, hdigits, hvalue⟩, hle⟩,
      fun ⟨hspells, hle⟩ => ⟨hspells.digits, hspells.value, hle⟩⟩

/-- What is wrong with a text is what reading it says. -/
theorem readUnsigned_eq_error_iff {bound : Nat} {cs : List Char} {e : NumeralError} :
    readUnsigned bound cs = .error e ↔ Misspells bound cs e := by
  constructor
  · intro h
    by_cases hne : dropPlus cs = []
    · rcases eq_of_dropPlus_eq_nil hne with rfl | rfl
      · obtain rfl := Except.error.inj h
        exact .empty
      · obtain rfl := Except.error.inj h
        exact .bare
    · rw [readUnsigned_digits bound hne, readDigits_eq_error_iff (Nat.zero_le bound)] at h
      exact .digits hne h
  · intro h
    cases h with
    | empty => rfl
    | bare => rfl
    | digits hne hfault =>
      rwa [readUnsigned_digits bound hne, readDigits_eq_error_iff (Nat.zero_le bound)]

/-- A text spells a word. -/
def SpellsWord (s : String) (n : UInt64) : Prop := SpellsNumber s.toList n.toNat

/-- What is wrong with a text that spells no word. -/
def MisspellsWord (s : String) (e : NumeralError) : Prop :=
  Misspells (UInt64.size - 1) s.toList e

/-- A word is read exactly from what spells it. -/
theorem readWord_eq_ok_iff {s : String} {n : UInt64} :
    Text.readWord s = .ok n ↔ SpellsWord s n := by
  have hsize := n.toNat_lt_size
  have hiff : Text.readWord s = .ok n ↔
      readUnsigned (UInt64.size - 1) s.toList = .ok n.toNat := by
    rw [Text.readWord]
    cases hread : readUnsigned (UInt64.size - 1) s.toList with
    | error e => simp [Except.map]
    | ok m =>
      have hm := (readUnsigned_eq_ok_iff.mp hread).2
      have hlt : m < UInt64.size := by omega
      simp only [Except.map, Except.ok.injEq, ← UInt64.toNat_inj, UInt64.toNat_ofNat_of_lt' hlt]
  rw [hiff, readUnsigned_eq_ok_iff, SpellsWord]
  exact and_iff_left (by omega)

/-- Reading what spells no word says what is wrong. -/
theorem readWord_eq_error_iff {s : String} {e : NumeralError} :
    Text.readWord s = .error e ↔ MisspellsWord s e := by
  rw [MisspellsWord, ← readUnsigned_eq_error_iff, Text.readWord]
  cases readUnsigned (UInt64.size - 1) s.toList <;> simp [Except.map]

/-- A text spells an integer: a number, or at least one digit behind a minus. -/
inductive SpellsInteger : List Char → Int → Prop where
  /-- A number, perhaps behind a plus. -/
  | number {cs : List Char} {n : Nat} (hspells : SpellsNumber cs n) : SpellsInteger cs n
  /-- A negative one. -/
  | negative {digits : List Char} {n : Nat} (hne : digits ≠ []) (hdigits : AllDigits digits)
      (hvalue : Nat.ofDigitChars 10 digits 0 = n) : SpellsInteger ('-' :: digits) (-n)

section Signed

variable {magnitude : Nat} {cs digits : List Char} {z : Int}

private theorem readSigned_number (hne : dropPlus cs ≠ []) (hminus : cs.head? ≠ some '-') :
    readSigned magnitude cs = (readDigits (magnitude - 1) 0 (dropPlus cs)).map Int.ofNat := by
  unfold readSigned
  split
  · exact absurd rfl hne
  · exact absurd rfl hne
  · exact absurd rfl hminus
  · rfl
  · exact absurd rfl hminus
  · next hplus _ =>
    unfold dropPlus
    split
    · exact absurd rfl (hplus _)
    · rfl

private theorem readSigned_negative_eq_ok_iff (hne : digits ≠ []) :
    readSigned magnitude ('-' :: digits) = .ok z ↔
      ∃ n : Nat, readDigits magnitude 0 digits = .ok n ∧ -(n : Int) = z := by
  cases digits with
  | nil => exact absurd rfl hne
  | cons d digits =>
    rw [readSigned]
    · cases readDigits magnitude 0 (d :: digits) with
      | ok n => simp
      | error e => cases e <;> simp
    · simp

private theorem map_eq_ok_iff {ε α β : Type} {f : α → β} {result : Except ε α} {b : β} :
    result.map f = .ok b ↔ ∃ a, result = .ok a ∧ f a = b := by
  cases result <;> simp [Except.map]

private theorem spellsInteger_minus_iff :
    SpellsInteger ('-' :: digits) z ↔
      digits ≠ [] ∧ AllDigits digits ∧ -(Nat.ofDigitChars 10 digits 0 : Int) = z := by
  constructor
  · intro h
    cases h with
    | number hspells =>
      -- A minus is no digit.
      exact absurd (hspells.digits '-' List.mem_cons_self) (by decide)
    | negative hne hdigits hvalue => exact ⟨hne, hdigits, by rw [hvalue]⟩
  · rintro ⟨hne, hdigits, rfl⟩
    exact .negative hne hdigits rfl

private theorem spellsInteger_iff_of_not_minus (hminus : cs.head? ≠ some '-') :
    SpellsInteger cs z ↔ ∃ n : Nat, SpellsNumber cs n ∧ (n : Int) = z := by
  constructor
  · intro h
    cases h with
    | number hspells => exact ⟨_, hspells, rfl⟩
    | negative => exact absurd rfl hminus
  · rintro ⟨n, hspells, rfl⟩
    exact .number hspells

/-- An integer is read exactly from what spells it, if it is within the range. -/
theorem readSigned_eq_ok_iff (hpos : 0 < magnitude) :
    readSigned magnitude cs = .ok z ↔
      SpellsInteger cs z ∧ -(magnitude : Int) ≤ z ∧ z < magnitude := by
  by_cases hminus : cs.head? = some '-'
  · obtain ⟨digits, rfl⟩ := List.head?_eq_some_iff.mp hminus
    rw [spellsInteger_minus_iff]
    by_cases hne : digits = []
    · subst hne
      exact iff_of_false nofun fun h => h.1.1 rfl
    · rw [readSigned_negative_eq_ok_iff hne]
      simp only [readDigits_eq_ok_iff (Nat.zero_le magnitude)]
      constructor
      · rintro ⟨n, ⟨hdigits, rfl, hle⟩, rfl⟩
        exact ⟨⟨hne, hdigits, rfl⟩, by omega, by omega⟩
      · rintro ⟨⟨_, hdigits, rfl⟩, hlow, _⟩
        exact ⟨_, ⟨hdigits, rfl, by omega⟩, rfl⟩
  · rw [spellsInteger_iff_of_not_minus hminus]
    by_cases hne : dropPlus cs = []
    · refine iff_of_false (fun h => ?_) fun ⟨⟨n, hspells, _⟩, _⟩ => hspells.nonempty hne
      rcases eq_of_dropPlus_eq_nil hne with rfl | rfl <;> cases h
    · rw [readSigned_number hne hminus, map_eq_ok_iff]
      simp only [readDigits_eq_ok_iff (Nat.zero_le (magnitude - 1))]
      constructor
      · rintro ⟨n, ⟨hdigits, hvalue, hle⟩, rfl⟩
        rw [Int.ofNat_eq_natCast]
        exact ⟨⟨n, ⟨hne, hdigits, hvalue⟩, rfl⟩, by omega, by omega⟩
      · rintro ⟨⟨n, hspells, rfl⟩, _, hlt⟩
        exact ⟨n, ⟨hspells.digits, hspells.value, by omega⟩, rfl⟩

/-- A signed number is read exactly from what spells it. -/
theorem readInt32_eq_ok_iff {s : String} {n : Int32} :
    Text.readInt32 s = .ok n ↔ SpellsInteger s.toList n.toInt := by
  have hlow : -2147483648 ≤ n.toInt := n.le_toInt
  have hhigh : n.toInt < 2147483648 := n.toInt_lt
  have hiff : Text.readInt32 s = .ok n ↔ readSigned 2147483648 s.toList = .ok n.toInt := by
    rw [Text.readInt32, map_eq_ok_iff]
    constructor
    · rintro ⟨z, hz, rfl⟩
      obtain ⟨_, hle, hlt⟩ := (readSigned_eq_ok_iff (by decide)).mp hz
      rw [hz, Int32.toInt_ofInt_of_le hle hlt]
    · intro hread
      exact ⟨n.toInt, hread, Int32.ofInt_toInt n⟩
  rw [hiff, readSigned_eq_ok_iff (by decide)]
  exact and_iff_left ⟨hlow, hhigh⟩

theorem allDigits_toDigits (n : Nat) : AllDigits (Nat.toDigits 10 n) :=
  fun _ hc => Nat.isDigit_of_mem_toDigits (by decide) (by decide) hc

/-- Digits have no plus in front of them. -/
theorem AllDigits.dropPlus_eq (h : AllDigits cs) : dropPlus cs = cs := by
  unfold dropPlus
  split
  · exact absurd (h '+' List.mem_cons_self) (by decide)
  · rfl

/-- The digits of a number spell it. -/
theorem spellsNumber_toDigits (n : Nat) : SpellsNumber (Nat.toDigits 10 n) n := by
  constructor <;> rw [(allDigits_toDigits n).dropPlus_eq]
  · exact Nat.toDigits_ne_nil
  · exact allDigits_toDigits n
  · exact Nat.ofDigitChars_ten_toDigits

/-- What a word is printed as spells it. -/
theorem spellsWord_toString (n : UInt64) : SpellsWord (toString n) n := by
  have hprinted : (toString n).toList = Nat.toDigits 10 n.toNat := Nat.toList_repr
  rw [SpellsWord, hprinted]
  exact spellsNumber_toDigits n.toNat

/-- A printed integer is its digits, behind a minus if it is negative. -/
theorem toList_toString_int (z : Int) :
    (toString z).toList = (if z < 0 then ['-'] else []) ++ Nat.toDigits 10 z.natAbs := by
  cases z with
  | ofNat n => exact Nat.toList_repr
  | negSucc n =>
    have htext : toString (Int.negSucc n) = "-" ++ (n + 1).repr := rfl
    rw [htext, String.toList_append, Nat.toList_repr, if_pos (Int.negSucc_lt_zero n)]
    rfl

/-- What an integer is printed as spells it. -/
theorem spellsInteger_toString (z : Int) : SpellsInteger (toString z).toList z := by
  rw [toList_toString_int]
  by_cases hneg : z < 0
  · rw [if_pos hneg, List.singleton_append, spellsInteger_minus_iff, Nat.ofDigitChars_ten_toDigits]
    exact ⟨Nat.toDigits_ne_nil, allDigits_toDigits z.natAbs, by omega⟩
  · have hz : (z.natAbs : Int) = z := by omega
    rw [if_neg hneg, List.nil_append]
    exact hz ▸ SpellsInteger.number (spellsNumber_toDigits z.natAbs)

/-- A printed number is read back. -/
theorem readInt32_toString (n : Int32) : Text.readInt32 (toString n) = .ok n :=
  readInt32_eq_ok_iff.mpr (spellsInteger_toString n.toInt)

end Signed

/-- A digit is what its value is printed as. -/
theorem toDigits_digit {c : Char} (h : c.isDigit = true) :
    Nat.toDigits 10 (c.toNat - '0'.toNat) = [c] := by
  obtain ⟨hlow, hhigh⟩ := isDigit_iff.mp h
  have hlow : 48 ≤ c.toNat := UInt32.le_iff_toNat_le.mp hlow
  have hhigh : c.toNat ≤ 57 := UInt32.le_iff_toNat_le.mp hhigh
  have hzero : '0'.toNat = 48 := rfl
  rw [Nat.toDigits_of_lt_base (by omega), hzero]
  have hdigit : ∀ n ≤ 9, Nat.digitChar n = Char.ofNat (n + 48) := by decide
  rw [hdigit _ (by omega), Nat.sub_add_cancel hlow, Char.ofNat_toNat]

/-- Digits are what their value is printed as, behind zeros. -/
theorem AllDigits.exists_zeros {digits : List Char} (h : AllDigits digits) (hne : digits ≠ []) :
    ∃ zeros, digits =
      List.replicate zeros '0' ++ Nat.toDigits 10 (Nat.ofDigitChars 10 digits 0) := by
  -- By induction on the digits, the last one taken off: only it changes when one is appended.
  induction digits using List.reverseRecOn with
  | nil => exact absurd rfl hne
  | append_singleton front c ih =>
    have hc := h c (by simp)
    have hfront : AllDigits front := fun d hd => h d (by simp [hd])
    have hlt : c.toNat - '0'.toNat < 10 := by
      have hhigh : c.toNat ≤ 57 := UInt32.le_iff_toNat_le.mp (isDigit_iff.mp hc).2
      have hzero : '0'.toNat = 48 := rfl
      omega
    rw [Nat.ofDigitChars_append, Nat.ofDigitChars_cons, Nat.ofDigitChars_nil]
    by_cases hempty : front = []
    · refine ⟨0, ?_⟩
      rw [hempty, Nat.ofDigitChars_nil, Nat.mul_zero, Nat.zero_add, toDigits_digit hc]
      rfl
    · obtain ⟨zeros, hzeros⟩ := ih hfront hempty
      rcases Nat.eq_zero_or_pos (Nat.ofDigitChars 10 front 0) with hvalue | hvalue
      · -- A zero in front is not printed.
        refine ⟨zeros + 1, ?_⟩
        rw [hvalue, Nat.toDigits_zero] at hzeros
        rw [hvalue, Nat.mul_zero, Nat.zero_add, toDigits_digit hc, List.replicate_succ', ← hzeros]
      · refine ⟨zeros, ?_⟩
        rw [← Nat.toDigits_append_toDigits (by decide) hvalue hlt, toDigits_digit hc,
          ← List.append_assoc, ← hzeros]

/-- A numeral differs from what its integer is printed as by no more than a plus or zeros in front,
or by the sign of a zero. -/
inductive Respells : List Char → Int → Prop where
  /-- The printed number, perhaps behind zeros. -/
  | unsigned (zeros n : Nat) : Respells (List.replicate zeros '0' ++ (toString n).toList) n
  /-- The same behind a plus. -/
  | plus (zeros n : Nat) : Respells ('+' :: (List.replicate zeros '0' ++ (toString n).toList)) n
  /-- The same behind a minus. -/
  | minus (zeros n : Nat) : Respells ('-' :: (List.replicate zeros '0' ++ (toString n).toList)) (-n)

/-- The digits of a number, perhaps behind zeros, have its value. -/
private theorem zeros_toString (zeros n : Nat) :
    List.replicate zeros '0' ++ (toString n).toList ≠ [] ∧
      AllDigits (List.replicate zeros '0' ++ (toString n).toList) ∧
      Nat.ofDigitChars 10 (List.replicate zeros '0' ++ (toString n).toList) 0 = n := by
  have hprinted : (toString n).toList = Nat.toDigits 10 n := Nat.toList_repr
  rw [hprinted]
  refine ⟨by simp [Nat.toDigits_ne_nil], fun c hc => ?_, ?_⟩
  · rcases List.mem_append.mp hc with hzero | hdigit
    · rw [List.eq_of_mem_replicate hzero]
      decide
    · exact allDigits_toDigits n c hdigit
  · rw [Nat.ofDigitChars_append, Nat.ofDigitChars_replicate_zero, Nat.mul_zero,
      Nat.ofDigitChars_ten_toDigits]

/-- What spells an integer is what it is printed as, up to a plus, zeros and the sign of a zero. -/
theorem spellsInteger_iff_respells {cs : List Char} {z : Int} :
    SpellsInteger cs z ↔ Respells cs z := by
  constructor
  · intro h
    cases h with
    | @number cs n hspells =>
      obtain ⟨zeros, hzeros⟩ := hspells.digits.exists_zeros hspells.nonempty
      rw [hspells.value, ← Nat.toList_repr] at hzeros
      rcases dropPlus_eq_or cs with hplus | hplus
      · rw [← hplus, hzeros]
        exact .unsigned zeros n
      · rw [hplus, hzeros]
        exact .plus zeros n
    | @negative digits n hne hdigits hvalue =>
      obtain ⟨zeros, hzeros⟩ := hdigits.exists_zeros hne
      rw [hvalue, ← Nat.toList_repr] at hzeros
      rw [hzeros]
      exact .minus zeros n
  · intro h
    cases h with
    | unsigned zeros n =>
      obtain ⟨hne, hdigits, hvalue⟩ := zeros_toString zeros n
      rw [← hdigits.dropPlus_eq] at hne hvalue
      exact .number ⟨hne, by rwa [hdigits.dropPlus_eq], hvalue⟩
    | plus zeros n =>
      obtain ⟨hne, hdigits, hvalue⟩ := zeros_toString zeros n
      exact .number ⟨hne, hdigits, hvalue⟩
    | minus zeros n =>
      obtain ⟨hne, hdigits, hvalue⟩ := zeros_toString zeros n
      exact .negative hne hdigits hvalue

end Periscope
