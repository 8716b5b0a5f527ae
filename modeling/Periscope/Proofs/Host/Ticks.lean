import Mathlib.Algebra.GroupWithZero.Nat
import Mathlib.Data.List.Induction
import Periscope.Host.CpuTimes

/-!
# Ticks of the host's cores

The ticks of a core are counted by kind, and all of them together must be a word. Then the shares
of the core between two readings can be told: each is what the ticks of its kind have gained, in
percent of what all ticks have gained. The earlier reading has a core if it has one at the same
place.
-/

namespace Periscope

/-- Adding word after word leaves the range exactly if the whole sum is out of range. -/
theorem foldlM_addWords (words : List UInt64) (start : UInt64) :
    words.foldlM addWords start =
      if start.toNat + (words.map UInt64.toNat).sum < UInt64.size then
        .ok (UInt64.ofNat (start.toNat + (words.map UInt64.toNat).sum))
      else .error .sumOverflow := by
  induction words generalizing start with
  | nil =>
    have hstart : start.toNat + 0 < UInt64.size := start.toNat_lt
    rw [List.map_nil, List.sum_nil, if_pos hstart, Nat.add_zero, UInt64.ofNat_toNat]
    rfl
  | cons word rest ih =>
    rw [List.foldlM_cons, addWords, List.map_cons, List.sum_cons, ← Nat.add_assoc]
    by_cases hfits : start.toNat + word.toNat < UInt64.size
    · have hsum : (start + word).toNat = start.toNat + word.toNat := by
        rw [UInt64.toNat_add]
        exact Nat.mod_eq_of_lt hfits
      rw [if_pos hfits, ← hsum]
      exact ih (start + word)
    · have hover : ¬ start.toNat + word.toNat + (rest.map UInt64.toNat).sum < UInt64.size := by
        omega
      rw [if_neg hfits, if_neg hover]
      rfl

/-- The kinds of ticks whose shares are told. -/
inductive ShareKind where
  /-- Programs of low priority. -/
  | nice
  /-- Waiting for devices. -/
  | iowait
  /-- Serving interrupts, in hardware or in software. -/
  | irq
  /-- Taken by the machine that hosts this one. -/
  | steal

deriving instance DecidableEq for HostShares

/-- The share of a kind. -/
def HostShares.ofKind {α : Type} (shares : HostShares α) : ShareKind → α
  | .nice => shares.nice
  | .iowait => shares.iowait
  | .irq => shares.irq
  | .steal => shares.steal

namespace CoreTicks

/-- All ticks of a core, however many. -/
def sum (t : CoreTicks) : Nat :=
  t.user.toNat + t.nice.toNat + t.system.toNat + t.idle.toNat + t.iowait.toNat + t.irq.toNat +
    t.softirq.toNat + t.steal.toNat

/-- All ticks of a core are a word. -/
def Fits (t : CoreTicks) : Prop := t.sum < UInt64.size

instance (t : CoreTicks) : Decidable t.Fits := inferInstanceAs (Decidable (t.sum < UInt64.size))

/-- The ticks of a kind. -/
def ofKind (t : CoreTicks) : ShareKind → Nat
  | .nice => t.nice.toNat
  | .iowait => t.iowait.toNat
  | .irq => t.irq.toNat + t.softirq.toNat
  | .steal => t.steal.toNat

/-- What the ticks of a kind have gained between two readings, and nothing if they went back. -/
def gain (kind : ShareKind) (before now : CoreTicks) : Nat := now.ofKind kind - before.ofKind kind

/-- What all ticks together have gained, and nothing if they went back. -/
def elapsed (before now : CoreTicks) : Nat := now.sum - before.sum

/-- A gain in percent of all. If nothing was gained at all, no kind has a share. -/
def share {α : Type} [Figure α] (gain elapsed : Nat) : α :=
  if elapsed = 0 then Figure.ofWord 0
  else Figure.ofWord (UInt64.ofNat gain) / Figure.ofWord (UInt64.ofNat elapsed) * Figure.ofWord 100

variable {α : Type} [Figure α] {before now : CoreTicks} {window ticks : List CoreTicks}

/-- The sum of all ticks, unless it is no word. -/
private theorem total_eq (t : CoreTicks) :
    t.total = if t.sum < UInt64.size then .ok (UInt64.ofNat t.sum) else .error .sumOverflow := by
  have hsum : (0 : UInt64).toNat + ([t.user, t.nice, t.system, t.idle, t.iowait, t.irq, t.softirq,
      t.steal].map UInt64.toNat).sum = t.sum := by
    simp only [List.map_cons, List.map_nil, List.sum_cons, List.sum_nil, sum, UInt64.toNat_zero]
    omega
  rw [total, sumWords, foldlM_addWords, hsum]

theorem total_of_fits {t : CoreTicks} (h : t.Fits) : t.total = .ok (UInt64.ofNat t.sum) :=
  (total_eq t).trans (if_pos h)

theorem total_of_not_fits {t : CoreTicks} (h : ¬ t.Fits) : t.total = .error .sumOverflow :=
  (total_eq t).trans (if_neg h)

/-- The ticks of a kind are some of the ticks of a core. -/
theorem ofKind_lt {t : CoreTicks} (h : t.Fits) (kind : ShareKind) :
    t.ofKind kind < UInt64.size := by
  have hsum : t.sum < UInt64.size := h
  rw [sum] at hsum
  cases kind <;> simp only [ofKind] <;> omega

/-- Interrupts served in hardware and in software have a sum. -/
private theorem addWords_interrupts {t : CoreTicks} (h : t.Fits) :
    ∃ interrupts, addWords t.irq t.softirq = .ok interrupts ∧
      interrupts.toNat = t.ofKind .irq := by
  have hlt : t.irq.toNat + t.softirq.toNat < UInt64.size := ofKind_lt h .irq
  refine ⟨t.irq + t.softirq, if_pos hlt, ?_⟩
  rw [UInt64.toNat_add]
  exact Nat.mod_eq_of_lt hlt

/-- The total that shares are told of. -/
private theorem subtractWords_sums (hbefore : before.Fits) (hnow : now.Fits) :
    subtractWords (UInt64.ofNat now.sum) (UInt64.ofNat before.sum) =
      UInt64.ofNat (elapsed before now) := by
  rw [← UInt64.ofNat_toNat (x := subtractWords _ _), toNat_subtractWords,
    UInt64.toNat_ofNat_of_lt' hnow, UInt64.toNat_ofNat_of_lt' hbefore, elapsed]

/-- A share of a positive total is told of what one kind has gained. -/
private theorem percent_eq_share {total later earlier : UInt64} {gain elapsed : Nat}
    (htotal : total = UInt64.ofNat elapsed) (helapsed : elapsed ≠ 0)
    (hgain : later.toNat - earlier.toNat = gain) :
    (percent total later earlier : α) = share gain elapsed := by
  rw [share, if_neg helapsed, percent, htotal, ← hgain, ← toNat_subtractWords,
    UInt64.ofNat_toNat]

/-- If all ticks are words, the share of each kind is what it has gained of the whole. -/
theorem sharesBetween_of_fits (hbefore : before.Fits) (hnow : now.Fits) :
    ∃ shares : HostShares α, sharesBetween before now = .ok shares ∧
      ∀ kind, shares.ofKind kind = share (gain kind before now) (elapsed before now) := by
  have htotal := subtractWords_sums hbefore hnow
  rw [sharesBetween, total_of_fits hnow, total_of_fits hbefore]
  simp only [bind, Except.bind, htotal]
  by_cases hzero : elapsed before now = 0
  · refine ⟨HostShares.none, by rw [hzero]; rfl, fun kind => ?_⟩
    rw [share, if_pos hzero]
    cases kind <;> rfl
  · have hlt : elapsed before now < UInt64.size := Nat.lt_of_le_of_lt (Nat.sub_le _ _) hnow
    have hne : UInt64.ofNat (elapsed before now) ≠ 0 := by
      intro h
      have hnat := congrArg UInt64.toNat h
      rw [UInt64.toNat_ofNat_of_lt' hlt] at hnat
      exact hzero hnat
    obtain ⟨nowIrq, hnowIrq, hnowTicks⟩ := addWords_interrupts hnow
    obtain ⟨beforeIrq, hbeforeIrq, hbeforeTicks⟩ := addWords_interrupts hbefore
    simp only [if_neg hne, hnowIrq, hbeforeIrq]
    refine ⟨_, rfl, fun kind => ?_⟩
    cases kind with
    | nice => exact percent_eq_share rfl hzero rfl
    | iowait => exact percent_eq_share rfl hzero rfl
    | irq => exact percent_eq_share rfl hzero (by rw [hnowTicks, hbeforeTicks]; rfl)
    | steal => exact percent_eq_share rfl hzero rfl

theorem sharesBetween_of_not_fits (hnow : ¬ now.Fits) :
    (sharesBetween before now : Except Panic (HostShares α)) = .error .sumOverflow := by
  rw [sharesBetween, total_of_not_fits hnow]
  rfl

/-- No ticks are a word. -/
theorem fits_empty : ({} : CoreTicks).Fits := show (0 : Nat) < UInt64.size by decide

/-- What a reading has at a place is a word if all that it has are. -/
theorem fits_getD (h : ∀ t ∈ ticks, t.Fits) (i : Nat) : (ticks.getD i {}).Fits := by
  rw [List.getD_eq_getElem?_getD]
  cases ht : ticks[i]? with
  | none => exact fits_empty
  | some t => exact h t (List.mem_of_getElem? ht)

private theorem fits_head (hwindow : ∀ t ∈ window, t.Fits) : (window.headD {}).Fits := by
  have hfirst := fits_getD hwindow 0
  cases window <;> exact hfirst

/-- Shares can be told of cores whose ticks are words. -/
theorem sharesSince_of_fits (hwindow : ∀ t ∈ window, t.Fits) (hticks : ∀ t ∈ ticks, t.Fits) :
    ∃ shares, (sharesSince window ticks : Except Panic (List (HostShares α))) = .ok shares := by
  induction ticks generalizing window with
  | nil => exact ⟨[], by rw [sharesSince]; rfl⟩
  | cons now rest ih =>
    obtain ⟨hnow, hrest⟩ := List.forall_mem_cons.mp hticks
    obtain ⟨first, hfirst, _⟩ := sharesBetween_of_fits (α := α) (fits_head hwindow) hnow
    have htail : ∀ t ∈ window.tail, t.Fits := fun t ht => hwindow t (List.mem_of_mem_tail ht)
    obtain ⟨others, hothers⟩ := ih htail hrest
    exact ⟨first :: others, by rw [sharesSince, hfirst, hothers]; rfl⟩

/-- One core whose ticks are no word is enough to stop. -/
theorem sharesSince_of_not_fits (hwindow : ∀ t ∈ window, t.Fits) {t : CoreTicks}
    (ht : t ∈ ticks) (hover : ¬ t.Fits) :
    (sharesSince window ticks : Except Panic (List (HostShares α))) = .error .sumOverflow := by
  induction ticks generalizing window with
  | nil => cases ht
  | cons now rest ih =>
    rw [sharesSince]
    by_cases hnow : now.Fits
    · have hrest : t ∈ rest := by
        rcases List.mem_cons.mp ht with rfl | hrest
        · exact absurd hnow hover
        · exact hrest
      have htail : ∀ t ∈ window.tail, t.Fits := fun t ht => hwindow t (List.mem_of_mem_tail ht)
      obtain ⟨first, hfirst, _⟩ := sharesBetween_of_fits (α := α) (fits_head hwindow) hnow
      rw [hfirst, ih htail hrest]
      rfl
    · rw [sharesBetween_of_not_fits hnow]
      rfl

/-- Each core has its shares, told of what the two readings have at its place. A core that the
earlier reading does not have is compared with one without ticks. -/
theorem sharesSince_getElem? {shares : List (HostShares α)}
    (h : sharesSince window ticks = .ok shares) :
    shares.length = ticks.length ∧ ∀ (i : Nat) (share : HostShares α), shares[i]? = some share →
      sharesBetween (window.getD i {}) (ticks.getD i {}) = .ok share := by
  induction ticks generalizing window shares with
  | nil =>
    obtain rfl : [] = shares := Except.ok.inj h
    simp
  | cons now rest ih =>
    rw [sharesSince] at h
    cases hfirst : (sharesBetween (window.headD {}) now : Except Panic (HostShares α)) with
    | error cause =>
      rw [hfirst] at h
      cases h
    | ok first =>
      cases hothers : (sharesSince window.tail rest : Except Panic (List (HostShares α))) with
      | error cause =>
        rw [hfirst, hothers] at h
        cases h
      | ok others =>
        rw [hfirst, hothers] at h
        obtain rfl : first :: others = shares := Except.ok.inj h
        obtain ⟨hlength, hshares⟩ := ih hothers
        refine ⟨by simp [hlength], fun i share hshare => ?_⟩
        cases i with
        | zero =>
          obtain rfl : first = share := by simpa using hshare
          cases window <;> exact hfirst
        | succ i =>
          have hlater := hshares i share (by simpa using hshare)
          cases window <;> exact hlater

/-- The text of the statistics file has a core whose ticks are no word. -/
def Overflows (content : Except IoError String) : Prop :=
  ∃ text, content = .ok text ∧ ∃ t ∈ parse text, ¬ t.Fits

/-- What reading the shares comes to, and the window that it leaves. -/
inductive ReadCourse (window : List CoreTicks) (content : Except IoError String) :
    Except Panic (Except IoError (List (HostShares α))) → List CoreTicks → Prop where
  /-- The file could not be read. -/
  | unread {cause : IoError} (hcontent : content = .error cause) :
      ReadCourse window content (.ok (.error cause)) window
  /-- The ticks of a core are no word. -/
  | stopped (hover : Overflows content) : ReadCourse window content (.error .sumOverflow) window
  /-- The shares since the window are told, and the text is the new window. -/
  | told {text : String} {shares : List (HostShares α)} (hcontent : content = .ok text)
      (hticks : ∀ t ∈ parse text, t.Fits) (hshares : sharesSince window (parse text) = .ok shares) :
      ReadCourse window content (.ok (.ok shares)) (parse text)

/-- If the window of before fits, then reading the shares takes one of these courses. -/
theorem readHostShares_course (hwindow : ∀ t ∈ window, t.Fits)
    (content : Except IoError String) :
    ReadCourse window content (readHostShares (α := α) window content).1
      (readHostShares (α := α) window content).2 := by
  cases content with
  | error cause => exact .unread rfl
  | ok text =>
    by_cases hticks : ∀ t ∈ parse text, t.Fits
    · obtain ⟨shares, hshares⟩ := sharesSince_of_fits (α := α) hwindow hticks
      rw [readHostShares, hshares]
      exact .told rfl hticks hshares
    · obtain ⟨t, ht, hnot⟩ : ∃ t ∈ parse text, ¬ t.Fits := by simpa using hticks
      have hstop := sharesSince_of_not_fits (α := α) hwindow ht hnot
      rw [readHostShares, hstop]
      exact .stopped ⟨text, rfl, t, ht, hnot⟩

theorem not_overflows_error (cause : IoError) : ¬ Overflows (.error cause) := by
  rintro ⟨text, htext, _⟩
  cases htext

theorem not_overflows_of_fits {text : String} (h : ∀ t ∈ parse text, t.Fits) :
    ¬ Overflows (.ok text) := by
  rintro ⟨_, htext, t, ht, hover⟩
  obtain rfl := Except.ok.inj htext
  exact hover (h t ht)

/-- If the window of before fits, then reading the shares stops only because of the new text. -/
theorem readHostShares_of_fits (hwindow : ∀ t ∈ window, t.Fits)
    (content : Except IoError String) :
    (Overflows content →
      (readHostShares (α := α) window content).1 = .error .sumOverflow) ∧
    (¬ Overflows content → ∃ told, (readHostShares (α := α) window content).1 = .ok told) ∧
    ∀ t ∈ (readHostShares (α := α) window content).2, t.Fits := by
  have hcourse := readHostShares_course (α := α) hwindow content
  generalize readHostShares (α := α) window content = out at hcourse
  obtain ⟨outcome, after⟩ := out
  cases hcourse with
  | unread hcontent =>
    subst hcontent
    exact ⟨fun hover => absurd hover (not_overflows_error _), fun _ => ⟨_, rfl⟩, hwindow⟩
  | stopped hover => exact ⟨fun _ => rfl, fun hnot => absurd hover hnot, hwindow⟩
  | told hcontent hticks hshares =>
    subst hcontent
    exact ⟨fun hover => absurd hover (not_overflows_of_fits hticks), fun _ => ⟨_, rfl⟩, hticks⟩

/-- The window after texts were read in a row, the first of them without a window. -/
def windowAfter (past : List (Except IoError String)) : List CoreTicks :=
  past.foldl (fun window content => (readHostShares (α := Float) window content).2) []

/-- Whatever was read, the window fits. -/
theorem windowAfter_fits (past : List (Except IoError String)) :
    ∀ t ∈ windowAfter past, t.Fits := by
  induction past using List.reverseRecOn with
  | nil => simp [windowAfter]
  | append_singleton past content ih =>
    rw [windowAfter, List.foldl_append]
    exact (readHostShares_of_fits (α := Float) ih content).2.2

end CoreTicks

end Periscope
