import Periscope.Proofs.Figure
import Periscope.Proofs.Host.Window

/-!
# Which core a core is compared with

The lines of the statistics file name their cores, but shares are told by the places of the lines.
A core is compared with itself as long as no core of a lower number has come or gone.
-/

namespace Periscope

namespace CoreTicks

/-- The number of the core that a line belongs to. -/
def coreNumber (line : List Char) : Nat :=
  Nat.ofDigitChars 10 ((line.drop 3).takeWhile Char.isDigit) 0

/-- A line that begins with the name of a core has its number. -/
theorem coreNumber_of_name (n : Nat) (counts : List Char) :
    coreNumber ("cpu".toList ++ (Nat.toDigits 10 n ++ ' ' :: counts)) = n := by
  have hdigits : ∀ c ∈ Nat.toDigits 10 n, c.isDigit = true :=
    fun _ hc => Nat.isDigit_of_mem_toDigits (by decide) (by decide) hc
  have hname : ("cpu".toList ++ (Nat.toDigits 10 n ++ ' ' :: counts)).drop 3 =
      Nat.toDigits 10 n ++ ' ' :: counts := rfl
  rw [coreNumber, hname, List.takeWhile_append_of_pos hdigits,
    List.takeWhile_cons_of_neg (by decide), List.append_nil, Nat.ofDigitChars_ten_toDigits]

/-- Each core has one line, and the lines are in the order of their cores. -/
def InCoreOrder (text : String) : Prop := (coreLines text).Pairwise (coreNumber · < coreNumber ·)

instance (text : String) : Decidable (InCoreOrder text) :=
  inferInstanceAs (Decidable ((coreLines text).Pairwise (coreNumber · < coreNumber ·)))

/-- How many cores of lower numbers there are. -/
def lowerCores (n : Nat) (text : String) : Nat := (coreLines text).countP (coreNumber · < n)

/-- Among lines in order, as many stand in front of a line as there are cores of lower numbers. -/
theorem countP_of_getElem? {lines : List (List Char)} {line : List Char} {i : Nat}
    (horder : lines.Pairwise (coreNumber · < coreNumber ·)) (hline : lines[i]? = some line) :
    lines.countP (coreNumber · < coreNumber line) = i := by
  induction lines generalizing i with
  | nil => simp at hline
  | cons first rest ih =>
    obtain ⟨hfirst, hrest⟩ := List.pairwise_cons.mp horder
    cases i with
    | zero =>
      obtain rfl : first = line := by simpa using hline
      have hnone : rest.countP (coreNumber · < coreNumber first) = 0 := by
        refine List.countP_eq_zero.mpr fun other hother => ?_
        have := hfirst other hother
        simpa using Nat.le_of_lt this
      rw [List.countP_cons_of_neg (by simp), hnone]
    | succ i =>
      have hline : rest[i]? = some line := by simpa using hline
      have hlower := hfirst line (List.mem_of_getElem? hline)
      rw [List.countP_cons_of_pos (by simpa using hlower), ih hrest hline]

/-- A line of a text in order stands behind the lines of the cores of lower numbers. -/
theorem InCoreOrder.place {text : String} (h : InCoreOrder text) {line : List Char}
    (hline : line ∈ coreLines text) :
    (coreLines text)[lowerCores (coreNumber line) text]? = some line := by
  obtain ⟨i, hi⟩ := List.mem_iff_getElem?.mp hline
  rw [lowerCores, countP_of_getElem? h hi]
  exact hi

end CoreTicks

open CoreTicks

/-- **A core is compared with itself while the cores below it stay.** Two calls tell shares, none
between them does, and in both texts each core has one line, in the order of the cores. A core has
a line in both texts, and as many cores of lower numbers are in the one as in the other. Then the
shares at the place of its line in the second text are those between its own ticks in the first and
its own ticks in the second. -/
theorem core_compared_with_itself {α : Type} [Figure α] {contents : List (Except IoError String)}
    {past between later : List (ShareCall α)} {first second : ShareCall α}
    {opening closing : String}
    (hcalls : shareCalls [] contents = past ++ first :: (between ++ second :: later))
    (hopening : first.text? = some opening) (hclosing : second.text? = some closing)
    (hbetween : ∀ call ∈ between, call.text? = none)
    (hfirst : InCoreOrder opening) (hsecond : InCoreOrder closing) :
    ∃ shares, second.outcome = .ok (.ok shares) ∧
      shares.length = (coreLines closing).length ∧
      ∀ before ∈ coreLines opening, ∀ now ∈ coreLines closing,
        coreNumber before = coreNumber now →
          lowerCores (coreNumber now) opening = lowerCores (coreNumber now) closing →
            ∃ (i : Nat) (share : HostShares α), (coreLines closing)[i]? = some now ∧
              shares[i]? = some share ∧
              sharesBetween (ofLine before) (ofLine now) = .ok share := by
  rw [← List.cons_append, ← List.append_assoc] at hcalls
  have hcontinues := continues_of_split hcalls
  have hwindow : second.window = parse opening := by
    rw [hcontinues.window]
    exact latestTicks_of_text? hopening hbetween
  obtain ⟨hcontent, told, htold⟩ := ShareCall.told_of_text? hclosing
  have hfits : ¬ Overflows second.content := by
    intro hover
    have hstopped := hcontinues.stopped hover
    rw [htold] at hstopped
    cases hstopped
  obtain ⟨_, shares, houtcome, hlength, hentries⟩ := hcontinues.told closing hcontent hfits
  refine ⟨shares, houtcome, hlength, fun before hbefore now hnow hnumber hlower => ?_⟩
  have hplace := hsecond.place hnow
  have hearlier : (parse opening).getD (lowerCores (coreNumber now) closing) {} =
      ofLine before := by
    rw [← hlower, ← hnumber]
    exact parse_getD (hfirst.place hbefore)
  obtain ⟨hinside, _⟩ := List.getElem?_eq_some_iff.mp hplace
  obtain ⟨share, hshare⟩ : ∃ share, shares[lowerCores (coreNumber now) closing]? = some share :=
    ⟨_, List.getElem?_eq_getElem (hlength ▸ hinside)⟩
  obtain ⟨line, hline, hshares, _⟩ := hentries _ share hshare
  obtain rfl := Option.some.inj (hplace.symm.trans hline)
  rw [hwindow, hearlier] at hshares
  exact ⟨_, share, hplace, hshare, hshares⟩

/-- Core 2 is compared with itself although a call between has failed and core 3 has come. -/
theorem core_compared_with_itself_gap :
    ∃ (first failed second : ShareCall ℚ) (shares : List (HostShares ℚ)) (i : Nat)
      (share : HostShares ℚ),
      shareCalls [] [.ok "cpu0 9\ncpu2 0 50 0 50\n", .error .noEntry,
        .ok "cpu0 9\ncpu2 0 100 0 100\ncpu3 9\n"] = [first, failed, second] ∧
      first.text? = some "cpu0 9\ncpu2 0 50 0 50\n" ∧ failed.text? = none ∧
      second.text? = some "cpu0 9\ncpu2 0 100 0 100\ncpu3 9\n" ∧
      InCoreOrder "cpu0 9\ncpu2 0 50 0 50\n" ∧
      InCoreOrder "cpu0 9\ncpu2 0 100 0 100\ncpu3 9\n" ∧
      second.outcome = .ok (.ok shares) ∧
      (coreLines "cpu0 9\ncpu2 0 100 0 100\ncpu3 9\n")[i]? = some "cpu2 0 100 0 100".toList ∧
      shares[i]? = some share ∧ share.nice = 50 := by
  let first : ShareCall ℚ := .of [] (.ok "cpu0 9\ncpu2 0 50 0 50\n")
  let failed : ShareCall ℚ := .of first.after (.error .noEntry)
  let second : ShareCall ℚ := .of failed.after (.ok "cpu0 9\ncpu2 0 100 0 100\ncpu3 9\n")
  have hcalls : shareCalls [] [.ok "cpu0 9\ncpu2 0 50 0 50\n", .error .noEntry,
      .ok "cpu0 9\ncpu2 0 100 0 100\ncpu3 9\n"] =
        [] ++ first :: ([failed] ++ second :: []) := rfl
  have hopening : first.text? = some "cpu0 9\ncpu2 0 50 0 50\n" := by decide +kernel
  have hfailed : failed.text? = none := rfl
  have hclosing : second.text? = some "cpu0 9\ncpu2 0 100 0 100\ncpu3 9\n" := by decide +kernel
  have hnothing : ∀ call ∈ [failed], call.text? = none := List.forall_mem_singleton.mpr hfailed
  have hfirst : InCoreOrder "cpu0 9\ncpu2 0 50 0 50\n" := by decide +kernel
  have hsecond : InCoreOrder "cpu0 9\ncpu2 0 100 0 100\ncpu3 9\n" := by decide +kernel
  obtain ⟨shares, houtcome, _, hmatched⟩ :=
    core_compared_with_itself hcalls hopening hclosing hnothing hfirst hsecond
  obtain ⟨i, share, hplace, hshare, hbetween⟩ :=
    hmatched "cpu2 0 50 0 50".toList (by decide +kernel) "cpu2 0 100 0 100".toList
      (by decide +kernel) (by decide +kernel) (by decide +kernel)
  have hown : (sharesBetween (ofLine "cpu2 0 50 0 50".toList)
      (ofLine "cpu2 0 100 0 100".toList) : Except Panic (HostShares ℚ)) = .ok ⟨50, 0, 0, 0⟩ := by
    decide +kernel
  have hnice : share.nice = 50 :=
    congrArg HostShares.nice (Except.ok.inj (hbetween.symm.trans hown))
  exact ⟨first, failed, second, shares, i, share, hcalls, hopening, hfailed, hclosing, hfirst,
    hsecond, houtcome, hplace, hshare, hnice⟩

/-- Where a core of a lower number has gone, a core is compared with another one: the shares of
core 2 are told of the earlier ticks of core 1, and its own would make them others. -/
theorem core_compared_with_another :
    ∃ (first second : ShareCall ℚ) (other share own : HostShares ℚ),
      shareCalls [] [.ok "cpu0 9\ncpu1 0 0 0 100\ncpu2 0 50 0 50\n",
        .ok "cpu0 9\ncpu2 0 100 0 100\n"] = [first, second] ∧
      InCoreOrder "cpu0 9\ncpu1 0 0 0 100\ncpu2 0 50 0 50\n" ∧
      InCoreOrder "cpu0 9\ncpu2 0 100 0 100\n" ∧
      second.outcome = .ok (.ok [other, share]) ∧ share.nice = 100 ∧
      sharesBetween (ofLine "cpu2 0 50 0 50".toList) (ofLine "cpu2 0 100 0 100".toList) =
        .ok own ∧
      own.nice = 50 := by
  refine ⟨_, _, ⟨0, 0, 0, 0⟩, ⟨100, 0, 0, 0⟩, ⟨50, 0, 0, 0⟩, rfl, by decide +kernel,
    by decide +kernel, ?_, rfl, ?_, rfl⟩
  · decide +kernel
  · decide +kernel

end Periscope
