import Periscope.Proofs.Figure
import Periscope.Proofs.Host.Window

/-!
# When the host's shares are percentages

A share is what one kind of ticks has gained, and it is told in percent of what all ticks have
gained. A kind that went back counts as no gain, but it lowers the whole. So the shares of a core
are parts of a whole only while what was lost is made up for by ticks that no share is told of.
-/

namespace Periscope

namespace CoreTicks

variable {before now : CoreTicks}

/-- What the kinds whose shares are told have gained. -/
def gains (before now : CoreTicks) : Nat :=
  gain .nice before now + gain .iowait before now + gain .irq before now + gain .steal before now

/-- What the ticks that no share is told of have gained. -/
def untold (before now : CoreTicks) : Nat :=
  (now.user.toNat - before.user.toNat) + (now.system.toNat - before.system.toNat) +
    (now.idle.toNat - before.idle.toNat)

/-- What was lost where ticks went back. -/
def lost (before now : CoreTicks) : Nat := gains now before + untold now before

/-- All ticks of now and what was lost are all ticks of before and what was gained. -/
theorem sum_add_lost (before now : CoreTicks) :
    now.sum + lost before now = before.sum + gains before now + untold before now := by
  have hback (earlier later : Nat) : later + (earlier - later) = earlier + (later - earlier) := by
    omega
  have hkind (kind : ShareKind) : now.ofKind kind + gain kind now before =
      before.ofKind kind + gain kind before now := hback _ _
  have hnice := hkind .nice
  have hiowait := hkind .iowait
  have hirq := hkind .irq
  have hsteal := hkind .steal
  simp only [ofKind] at hnice hiowait hirq hsteal
  have huser := hback before.user.toNat now.user.toNat
  have hsystem := hback before.system.toNat now.system.toNat
  have hidle := hback before.idle.toNat now.idle.toNat
  rw [sum, sum, lost, gains, gains, untold, untold]
  linarith

theorem Grows.lost_eq_zero (h : before.Grows now) : lost before now = 0 := by
  have hkind (kind : ShareKind) : gain kind now before = 0 :=
    Nat.sub_eq_zero_of_le (h.ofKind_le kind)
  rw [lost, gains, hkind, hkind, hkind, hkind, untold, Nat.sub_eq_zero_of_le h.user,
    Nat.sub_eq_zero_of_le h.system, Nat.sub_eq_zero_of_le h.idle]

/-- A share without rounding. -/
theorem share_rat {gain elapsed : Nat} (hgain : gain < UInt64.size)
    (helapsed : elapsed < UInt64.size) : (share gain elapsed : ℚ) = 100 * gain / elapsed := by
  rw [share]
  by_cases hzero : elapsed = 0
  · rw [if_pos hzero, hzero, Nat.cast_zero, div_zero]
    rfl
  · have hfigure : (Figure.ofWord (UInt64.ofNat gain) / Figure.ofWord (UInt64.ofNat elapsed) *
        Figure.ofWord 100 : ℚ) = gain / elapsed * 100 := by
      rw [Figure.ofWord_ofNat hgain, Figure.ofWord_ofNat helapsed]
      rfl
    rw [if_neg hzero, hfigure]
    ring

/-- A part is at most the whole of it, unless there is no whole. -/
private theorem percent_le_iff (part whole : Nat) :
    (100 * part / whole : ℚ) ≤ 100 ↔ whole = 0 ∨ part ≤ whole := by
  by_cases hzero : whole = 0
  · simp [hzero]
  · have hpos : (0 : ℚ) < whole := by exact_mod_cast Nat.pos_of_ne_zero hzero
    have hcast : (part : ℚ) ≤ whole ↔ part ≤ whole := Nat.cast_le
    rw [div_le_iff₀ hpos, mul_le_mul_iff_right₀ (by norm_num), hcast]
    simp [hzero]

/-- The gains are at most the elapsed time exactly if the ticks that no share is told of make up
for what was lost. -/
theorem gains_le_elapsed_iff (h : elapsed before now ≠ 0) :
    gains before now ≤ elapsed before now ↔ lost before now ≤ untold before now := by
  have hsum := sum_add_lost before now
  rw [elapsed] at h ⊢
  omega

end CoreTicks

/-- All four shares together. -/
def HostShares.total (shares : HostShares ℚ) : ℚ :=
  shares.nice + shares.iowait + shares.irq + shares.steal

/-- What the shares of a core are between two readings of its counters. -/
structure HostShares.Accounts (before now : CoreTicks) (shares : HostShares ℚ) : Prop where
  /-- Each is what its kind has gained, in percent of what all kinds have gained. -/
  percent : ∀ kind, shares.ofKind kind =
    100 * CoreTicks.gain kind before now / CoreTicks.elapsed before now
  /-- While the sum of all counters stands still or goes back, there are no shares. -/
  standstill : CoreTicks.elapsed before now = 0 → ∀ kind, shares.ofKind kind = 0
  /-- No share is negative, even if its counters went back. -/
  nonneg : ∀ kind, 0 ≤ shares.ofKind kind
  /-- A share is a percentage exactly if its kind has gained no more than all kinds together. -/
  share_le_iff : ∀ kind, shares.ofKind kind ≤ 100 ↔
    CoreTicks.elapsed before now = 0 ∨
      CoreTicks.gain kind before now ≤ CoreTicks.elapsed before now
  /-- All four are parts of one whole exactly if the ticks that no share is told of make up for
  what was lost where ticks went back. -/
  total_le_iff : shares.total ≤ 100 ↔
    CoreTicks.elapsed before now = 0 ∨
      CoreTicks.lost before now ≤ CoreTicks.untold before now
  /-- While no counter goes back they are. -/
  growing : before.Grows now → shares.total ≤ 100

/-- The shares between two readings that fit. -/
theorem CoreTicks.accounts_of_sharesBetween {before now : CoreTicks} {shares : HostShares ℚ}
    (hbefore : before.Fits) (hnow : now.Fits) (h : sharesBetween before now = .ok shares) :
    shares.Accounts before now := by
  have hexact (kind : ShareKind) :
      shares.ofKind kind = 100 * gain kind before now / elapsed before now := by
    obtain ⟨shares', hshares, hkinds⟩ := sharesBetween_of_fits (α := ℚ) hbefore hnow
    obtain rfl := Except.ok.inj (h.symm.trans hshares)
    rw [hkinds, share_rat]
    · exact Nat.lt_of_le_of_lt (Nat.sub_le _ _) (ofKind_lt hnow kind)
    · exact Nat.lt_of_le_of_lt (Nat.sub_le _ _) hnow
  have htotal : shares.total = 100 * gains before now / elapsed before now := by
    have hparts : shares.total = shares.ofKind .nice + shares.ofKind .iowait +
        shares.ofKind .irq + shares.ofKind .steal := rfl
    rw [hparts, hexact, hexact, hexact, hexact, gains]
    push_cast
    ring
  have htotal_le : shares.total ≤ 100 ↔
      elapsed before now = 0 ∨ lost before now ≤ untold before now := by
    rw [htotal, percent_le_iff]
    exact or_congr_right' gains_le_elapsed_iff
  refine ⟨hexact, fun hzero kind => ?_, fun kind => ?_, fun kind => ?_, htotal_le,
    fun hgrows => ?_⟩
  · rw [hexact, hzero, Nat.cast_zero, div_zero]
  · rw [hexact]
    positivity
  · rw [hexact]
    exact percent_le_iff _ _
  · rw [htotal_le, hgrows.lost_eq_zero]
    exact .inr (Nat.zero_le _)

/-- **When the host's shares are percentages.** Of any two texts that are read in a row and whose
cores have ticks that are words, the second has its shares told: one entry for each line of a core,
told of that line and of what the first text has at its place. No counter need grow. Then each
share is a percentage, and the four are parts of one whole, exactly under these conditions. -/
theorem host_shares_account {contents : List (Except IoError String)}
    {past later : List (ShareCall ℚ)} {first second : ShareCall ℚ} {opening closing : String}
    (hcalls : shareCalls [] contents = past ++ first :: second :: later)
    (hopening : first.content = .ok opening) (hclosing : second.content = .ok closing)
    (hfirst : ∀ t ∈ CoreTicks.parse opening, t.Fits)
    (hsecond : ∀ t ∈ CoreTicks.parse closing, t.Fits) :
    ∃ shares, second.outcome = .ok (.ok shares) ∧
      shares.length = (CoreTicks.coreLines closing).length ∧
      ∀ (i : Nat) (share : HostShares ℚ), shares[i]? = some share →
        ∃ line, (CoreTicks.coreLines closing)[i]? = some line ∧
          share.Accounts ((CoreTicks.parse opening).getD i {}) (CoreTicks.ofLine line) := by
  have hopened := continues_of_split hcalls
  obtain ⟨htext, _⟩ := hopened.told opening hopening
    (hopening ▸ CoreTicks.not_overflows_of_fits hfirst)
  rw [List.append_cons] at hcalls
  have hclosed := continues_of_split hcalls
  have hwindow : second.window = CoreTicks.parse opening := by
    rw [hclosed.window, latestTicks_append_singleton, htext]
  obtain ⟨_, shares, houtcome, hlength, hentries⟩ := hclosed.told closing hclosing
    (hclosing ▸ CoreTicks.not_overflows_of_fits hsecond)
  refine ⟨shares, houtcome, hlength, fun i share hshare => ?_⟩
  obtain ⟨line, hline, hbetween, _⟩ := hentries i share hshare
  rw [hwindow] at hbetween
  have hnow : (CoreTicks.ofLine line).Fits :=
    hsecond _ (List.mem_map_of_mem (List.mem_of_getElem? hline))
  exact ⟨line, hline, CoreTicks.accounts_of_sharesBetween (CoreTicks.fits_getD hfirst i) hnow
    hbetween⟩

/-- A core has waited for less than it had before, and its idle time makes up for that. -/
theorem host_shares_account_waiting :
    ∃ (first second : ShareCall ℚ) (share : HostShares ℚ),
      shareCalls [] [.ok "cpu0 0 0 0 50 50 0 0 0 0 0\n",
        .ok "cpu0 0 10 0 80 42 0 0 0 0 0\n"] = [first, second] ∧
      (∀ t ∈ CoreTicks.parse "cpu0 0 0 0 50 50 0 0 0 0 0\n", t.Fits) ∧
      (∀ t ∈ CoreTicks.parse "cpu0 0 10 0 80 42 0 0 0 0 0\n", t.Fits) ∧
      second.outcome = .ok (.ok [share]) ∧ share.nice = 125 / 4 ∧ share.iowait = 0 ∧
      share.total ≤ 100 := by
  let first : ShareCall ℚ := .of [] (.ok "cpu0 0 0 0 50 50 0 0 0 0 0\n")
  let second : ShareCall ℚ := .of first.after (.ok "cpu0 0 10 0 80 42 0 0 0 0 0\n")
  have hcalls : shareCalls [] [.ok "cpu0 0 0 0 50 50 0 0 0 0 0\n",
      .ok "cpu0 0 10 0 80 42 0 0 0 0 0\n"] = [] ++ first :: second :: [] := rfl
  have hfirst : ∀ t ∈ CoreTicks.parse "cpu0 0 0 0 50 50 0 0 0 0 0\n", t.Fits := by decide +kernel
  have hsecond : ∀ t ∈ CoreTicks.parse "cpu0 0 10 0 80 42 0 0 0 0 0\n", t.Fits := by
    decide +kernel
  have hopening : CoreTicks.parse "cpu0 0 0 0 50 50 0 0 0 0 0\n" =
      [{ idle := 50, iowait := 50 }] := by decide +kernel
  have hclosing : CoreTicks.coreLines "cpu0 0 10 0 80 42 0 0 0 0 0\n" =
      ["cpu0 0 10 0 80 42 0 0 0 0 0".toList] := by decide +kernel
  have hticks : CoreTicks.ofLine "cpu0 0 10 0 80 42 0 0 0 0 0".toList =
      { nice := 10, idle := 80, iowait := 42 } := by decide +kernel
  obtain ⟨shares, houtcome, hlength, haccounts⟩ :=
    host_shares_account hcalls rfl rfl hfirst hsecond
  rw [hclosing] at hlength haccounts
  obtain ⟨share, rfl⟩ := List.length_eq_one_iff.mp hlength
  obtain ⟨line, hline, haccount⟩ := haccounts 0 share rfl
  obtain rfl := Option.some.inj hline
  rw [hopening, hticks] at haccount
  have hnice : share.nice = 100 * (10 : ℕ) / (32 : ℕ) := haccount.percent .nice
  have hiowait : share.iowait = 100 * (0 : ℕ) / (32 : ℕ) := haccount.percent .iowait
  refine ⟨first, second, share, hcalls, hfirst, hsecond, houtcome, ?_, ?_, ?_⟩
  · rw [hnice]
    norm_num
  · rw [hiowait]
    norm_num
  · exact haccount.total_le_iff.mpr (.inr (by decide))

/-- When a counter goes back, a share need not be a percentage: a core has waited for eight ticks
less than before, and its ten ticks of low priority are five times as many as have gone by. -/
theorem host_shares_exceed_hundred :
    ∃ (first second : ShareCall ℚ) (share : HostShares ℚ),
      shareCalls [] [.ok "cpu0 0 0 0 50 50 0 0 0 0 0\n",
        .ok "cpu0 0 10 0 50 42 0 0 0 0 0\n"] = [first, second] ∧
      (∀ t ∈ CoreTicks.parse "cpu0 0 0 0 50 50 0 0 0 0 0\n", t.Fits) ∧
      (∀ t ∈ CoreTicks.parse "cpu0 0 10 0 50 42 0 0 0 0 0\n", t.Fits) ∧
      second.outcome = .ok (.ok [share]) ∧ share.nice = 500 := by
  refine ⟨_, _, ⟨500, 0, 0, 0⟩, rfl, by decide +kernel, by decide +kernel, ?_, rfl⟩
  decide +kernel

end Periscope
