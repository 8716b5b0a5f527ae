import Periscope.Proofs.Json.Reading
import Periscope.Proofs.Text.Numeral

/-!
# Printed integers are read back

An integer is printed as its digits, behind a minus if it is negative. While their number fits
64 bits the reader takes all of them, and it stops at whatever may stand behind a value, blanks
included.
-/

namespace Periscope.Json

/-- Behind the digits of an integer the value ends. -/
private theorem readBehindWhole_follows (negative : Bool) (n : Nat) {rest : Input}
    (h : Follows rest) :
    readBehindWhole negative n 0 rest = .ok (wholeNumber negative n, rest) := by
  rcases h.cases with rfl | ⟨c, others, rfl, hc⟩
  · rfl
  · simp only [List.mem_cons, List.not_mem_nil, or_false] at hc
    rcases hc with rfl | rfl | rfl | rfl | rfl | rfl | rfl <;> rfl

/-- All digits are taken if their number fits 64 bits. -/
private theorem takeSignificand_digits {digits : List Char}
    (hdigits : ∀ c ∈ digits, c.isDigit = true) {value : Nat} (taken : Nat) {rest : Input}
    (hrest : startsWithDigit rest = false)
    (hfits : Nat.ofDigitChars 10 digits value < UInt64.size) :
    takeSignificand value taken (digits.map some ++ rest) =
      (Nat.ofDigitChars 10 digits value, taken + digits.length, rest) := by
  induction digits generalizing value taken with
  | nil =>
    rw [Nat.ofDigitChars_nil]
    cases rest with
    | nil => rfl
    | cons s others =>
      have hs : digit? s = none := by simpa [startsWithDigit] using hrest
      simp [takeSignificand, hs]
  | cons c digits ih =>
    obtain ⟨hc, hdigits⟩ := List.forall_mem_cons.mp hdigits
    rw [Nat.ofDigitChars_cons, Nat.mul_comm 10 value] at hfits ⊢
    -- The bound on all digits bounds what each step comes to.
    have hfirst : value * 10 + (c.toNat - '0'.toNat) < UInt64.size :=
      Nat.lt_of_le_of_lt (le_ofDigitChars digits _) hfits
    rw [List.map_cons, List.cons_append, takeSignificand, digit?_of_isDigit hc]
    simp only [if_pos hfirst, ih hdigits _ hfits, List.length_cons]
    rw [Nat.add_assoc, Nat.add_comm 1]

theorem dropDigits_none (dropped : Nat) {rest : Input}
    (hrest : startsWithDigit rest = false) : dropDigits dropped rest = (dropped, rest) := by
  cases rest with
  | nil => rfl
  | cons s others =>
    have hs : digit? s = none := by simpa [startsWithDigit] using hrest
    simp [dropDigits, hs]

/-- The first digit of a number is zero for zero only. -/
private theorem toDigits_eq_cons (n : Nat) :
    ∃ first others, Nat.toDigits 10 n = first :: others ∧ first.isDigit = true ∧
      (first = '0' → n = 0) := by
  induction n using Nat.strongRecOn with
  | ind n ih =>
    by_cases hsmall : n < 10
    · refine ⟨n.digitChar, [], Nat.toDigits_of_lt_base hsmall, ?_, Nat.digitChar_eq_zero.mp⟩
      rw [Nat.isDigit_digitChar, decide_eq_true hsmall]
    · obtain ⟨first, others, hdigits, hfirst, hzero⟩ := ih (n / 10) (by omega)
      refine ⟨first, others ++ [(n % 10).digitChar], ?_, hfirst, fun h => ?_⟩
      · rw [Nat.toDigits_of_base_le (by decide) (by omega), hdigits, List.cons_append]
      · have := hzero h
        omega

/-- A printed number that fits 64 bits is read back. -/
private theorem readMagnitude_toDigits (negative : Bool) {n : Nat} (hn : n < UInt64.size)
    {rest : Input} (hrest : Follows rest) :
    readMagnitude negative ((Nat.toDigits 10 n).map some ++ rest) =
      .ok (wholeNumber negative n, rest) := by
  by_cases hzero : n = 0
  · subst hzero
    have hend : startsWithDigit rest = false := hrest.startsWithDigit
    rw [Nat.toDigits_zero, List.map_singleton, List.singleton_append, readMagnitude, hend]
    exact readBehindWhole_follows negative 0 hrest
  obtain ⟨first, others, hdigits, hfirst, hnonzero⟩ := toDigits_eq_cons n
  have hvalue : Nat.ofDigitChars 10 (Nat.toDigits 10 n) 0 = n := Nat.ofDigitChars_ten_toDigits
  have htake : takeSignificand 0 0 ((Nat.toDigits 10 n).map some ++ rest) =
      (n, 0 + (Nat.toDigits 10 n).length, rest) := by
    rw [takeSignificand_digits
      (fun _ hc => Nat.isDigit_of_mem_toDigits (by decide) (by decide) hc) 0
      hrest.startsWithDigit (by rw [hvalue]; exact hn), hvalue]
  have hstart : startsWithDigit ((Nat.toDigits 10 n).map some ++ rest) = true := by
    simp [hdigits, startsWithDigit, digit?_of_isDigit hfirst]
  -- A zero in front would have to stand alone.
  have hhead : ((Nat.toDigits 10 n).map some ++ rest).head? ≠ some (some '0') := by
    simpa [hdigits] using fun h => hzero (hnonzero h)
  generalize (Nat.toDigits 10 n).map some ++ rest = input at htake hstart hhead
  unfold readMagnitude
  split
  · simp [startsWithDigit] at hstart
  · simp at hhead
  · rw [if_pos hstart, htake]
    dsimp only
    rw [dropDigits_none 0 hrest.startsWithDigit]
    exact readBehindWhole_follows negative n hrest

theorem characters_ofNat (n : Nat) :
    (Json.integer (Int.ofNat n)).characters = Nat.toDigits 10 n := Nat.toList_repr

private theorem characters_negSucc (n : Nat) :
    (Json.integer (Int.negSucc n)).characters = '-' :: Nat.toDigits 10 (n + 1) := by
  have htext : (Json.integer (Int.negSucc n)).characters = ("-" ++ Nat.repr (n + 1)).toList := rfl
  rw [htext, String.toList_append, Nat.toList_repr]
  rfl

/-- The first character tells that an integer follows. -/
theorem peekStart_integer (n : Int) (rest : Input) :
    peekStart ((Json.integer n).characters.map some ++ rest) =
      .ok (.number, (Json.integer n).characters.map some ++ rest) := by
  cases n with
  | ofNat n =>
    obtain ⟨first, others, hdigits, hfirst, _⟩ := toDigits_eq_cons n
    have hstart := start?_of_isDigit hfirst
    rw [characters_ofNat, hdigits]
    exact peekStart_cons (start_outside (by simp [hstart])).1 hstart
  | negSucc n =>
    rw [characters_negSucc]
    exact peekStart_cons (by decide) rfl

/-- An integer that fits 64 bits is read back. -/
theorem readNumber_integer {n : Int} (hleast : -9223372036854775808 ≤ n)
    (hgreatest : n ≤ 18446744073709551615) {rest : Input} (hrest : Follows rest) :
    readNumber ((Json.integer n).characters.map some ++ rest) = .ok (.whole n, rest) := by
  cases n with
  | ofNat n =>
    have hn : n < UInt64.size := by
      have hsize : UInt64.size = 18446744073709551616 := rfl
      have hcast : (Int.ofNat n) = (n : Int) := rfl
      omega
    have hread := readMagnitude_toDigits false hn hrest
    obtain ⟨first, others, hdigits, hfirst, _⟩ := toDigits_eq_cons n
    have hminus : first ≠ '-' := ne_of_isDigit hfirst rfl
    rw [characters_ofNat]
    rw [hdigits] at hread ⊢
    unfold readNumber
    split
    · next heq => simp [hminus] at heq
    · exact hread
  | negSucc n =>
    have hn : n + 1 ≤ 9223372036854775808 := by omega
    have hsize : n + 1 < UInt64.size := Nat.lt_of_le_of_lt hn (by decide)
    have hwhole : wholeNumber true (n + 1) = .whole (Int.negSucc n) := by
      have hinside : ¬(n + 1 = 0 ∨ 9223372036854775808 < n + 1) := by omega
      rw [wholeNumber, if_pos rfl, if_neg hinside]
      rfl
    rw [characters_negSucc, ← hwhole]
    exact readMagnitude_toDigits true hsize hrest

/-- An integer between the bounds is read if it fits 64 bits. -/
theorem integer_reads {least greatest n : Int} (depth : Nat)
    (hbounds : least ≤ n ∧ n ≤ greatest)
    (hword : -9223372036854775808 ≤ n ∧ n ≤ 18446744073709551615) :
    Reads (Decoder.integer least greatest depth) n (Json.integer n).characters := by
  refine .of_takes (begins_characters _) (ignoresBlanks_peekStart.bind _) fun rest hrest => ?_
  have hnumber := readNumber_integer hword.1 hword.2 hrest
  rw [Decoder.integer, bind_of_ok (peekStart_integer n rest)]
  dsimp only
  rw [bind_of_ok hnumber]
  dsimp only
  rw [if_pos hbounds]
  rfl

/-- A word is read from its digits. -/
theorem word_reads (depth : Nat) (n : UInt64) :
    Reads (Decoder.word depth) n (Nat.toDigits 10 n.toNat) := by
  have hsize : UInt64.size = 18446744073709551616 := rfl
  have hgreatest := n.toNat_lt_size
  have hread : Reads (Decoder.integer 0 18446744073709551615 depth) (n.toNat : Int)
      (Json.integer (Int.ofNat n.toNat)).characters := integer_reads depth (by omega) (by omega)
  have hvalue := hread.map fun value => UInt64.ofNat value.toNat
  rw [characters_ofNat, Int.toNat_natCast, UInt64.ofNat_toNat] at hvalue
  exact hvalue

/-- A signed 32-bit number is read from what it is printed as. -/
theorem int32_reads (depth : Nat) (n : Int32) :
    Reads (Decoder.int32 depth) n (Json.integer n.toInt).characters := by
  have hleast := n.le_toInt
  have hgreatest := n.toInt_lt
  have hread : Reads (Decoder.integer (-2147483648) 2147483647 depth) n.toInt
      (Json.integer n.toInt).characters := integer_reads depth (by omega) (by omega)
  have hvalue := hread.map Int32.ofInt
  rw [Int32.ofInt_toInt] at hvalue
  exact hvalue

/-- Signed 32-bit numbers are read back. -/
theorem int32_readsBack (depth : Nat) (n : Int32) :
    ReadsBack depth Decoder.int32 (.integer n.toInt) n :=
  fun _ hrest => (int32_reads depth n).takes hrest.follows

end Periscope.Json
