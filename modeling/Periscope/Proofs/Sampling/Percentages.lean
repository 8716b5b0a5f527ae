import Periscope.Proofs.Figure

/-!
# The use of a core, exactly

Read without rounding, the busy time of a core is a share of the interval between two readings
of its counter, and user and system time split it as the ticks of the container are. The host's
figures for a core are those at the same place of its list.
-/

namespace Periscope

variable {before current : List UInt64} {user system : UInt64}

/-- The busy time of a core, as a part of the interval in percent. -/
theorem coreUtilization_rat (seconds : ℚ) (earlier later : UInt64) :
    coreUtilization seconds earlier later =
      if 0 < seconds then
        min 100 (100 * ((later.toNat - earlier.toNat : ℕ) : ℚ) / (1000000000 * seconds))
      else 0 := by
  have hfigure : coreUtilization seconds earlier later =
      if decide (0 < seconds) = true then
        min (((subtractWords later earlier).toNat : ℚ) / 1000000000 / seconds * 100) 100
      else 0 := rfl
  rw [hfigure, toNat_subtractWords]
  by_cases h : 0 < seconds
  · rw [if_pos (decide_eq_true h), if_pos h, min_comm]
    congr 1
    field_simp
  · rw [if_neg (by simpa using h), if_neg h]

/-- A busy time lies between 0 and 100, whatever the counters are. -/
theorem coreUtilization_bounds (seconds : ℚ) (earlier later : UInt64) :
    0 ≤ coreUtilization seconds earlier later ∧ coreUtilization seconds earlier later ≤ 100 := by
  rw [coreUtilization_rat]
  by_cases h : 0 < seconds
  · rw [if_pos h]
    exact ⟨le_min (by norm_num) (by positivity), min_le_left _ _⟩
  · rw [if_neg h]
    norm_num

/-- The weights split what they are applied to as the ticks are; without ticks they leave
nothing. -/
structure TickWeights.Split (user system : UInt64) (weights : TickWeights ℚ) : Prop where
  /-- The weight of user time is a part of the whole. -/
  user_le : 0 ≤ weights.user ∧ weights.user ≤ 1
  /-- So is that of system time. -/
  system_le : 0 ≤ weights.system ∧ weights.system ≤ 1
  /-- With ticks the two are the whole, in the proportion of the ticks. -/
  whole : user ≠ 0 ∨ system ≠ 0 → weights.user + weights.system = 1 ∧
    weights.user * system.toNat = weights.system * user.toNat
  /-- Without ticks there is nothing to split. -/
  nothing : user = 0 → system = 0 → weights.user = 0 ∧ weights.system = 0

/-- Ticks that have a sum have weights, and these split as they should. -/
theorem tickWeights_rat (h : user.toNat + system.toNat < UInt64.size) :
    ∃ weights, (tickWeights user system : Except Panic (TickWeights ℚ)) = .ok weights ∧
      weights.Split user system := by
  have hsum : (user + system).toNat = user.toNat + system.toNat := by
    rw [UInt64.toNat_add]
    exact Nat.mod_eq_of_lt h
  have hfigure : (tickWeights user system : Except Panic (TickWeights ℚ)) = .ok
      (let total : ℚ :=
        if decide (((user + system).toNat : ℚ) = 0) = true then 1 / 10 else (user + system).toNat
      ⟨user.toNat / total, system.toNat / total⟩) := by
    rw [tickWeights, addWords, if_pos h]
    rfl
  refine ⟨_, hfigure, ?_⟩
  rw [hsum]
  by_cases hzero : user.toNat + system.toNat = 0
  · have huser : user = 0 := UInt64.toNat_inj.mp (by rw [UInt64.toNat_zero]; omega)
    have hsystem : system = 0 := UInt64.toNat_inj.mp (by rw [UInt64.toNat_zero]; omega)
    subst huser hsystem
    constructor <;> simp
  · have hpos : (0 : ℚ) < user.toNat + system.toNat := by
      exact_mod_cast Nat.pos_of_ne_zero hzero
    have hne : ((user.toNat + system.toNat : ℕ) : ℚ) ≠ 0 := by exact_mod_cast hzero
    have huser : (0 : ℚ) ≤ user.toNat := Nat.cast_nonneg _
    have hsystem : (0 : ℚ) ≤ system.toNat := Nat.cast_nonneg _
    simp only [decide_eq_false hne, Bool.false_eq_true, if_false]
    push_cast
    constructor
    · exact ⟨by positivity, by rw [div_le_one hpos]; linarith⟩
    · exact ⟨by positivity, by rw [div_le_one hpos]; linarith⟩
    · intro _
      constructor
      · field_simp
      · ring
    · intro hu hs
      subst hu hs
      simp at hzero

/-- A reported core is computed from the counters and the host's shares at its place. -/
theorem coreUsages_getElem? {α : Type} [Figure α] {weights : TickWeights α} {seconds : α}
    {host : List (HostShares α)} {i : Nat} {core : CoreUsage α}
    (h : (coreUsages weights seconds before current host)[i]? = some core) :
    ∃ earlier later, before[i]? = some earlier ∧ current[i]? = some later ∧
      core = coreUsage weights (coreUtilization seconds earlier later)
        (host[i]?.getD HostShares.none) := by
  induction before generalizing current host i with
  | nil => simp [coreUsages] at h
  | cons earlier befores ih =>
    cases current with
    | nil => simp [coreUsages] at h
    | cons later currents =>
      rw [coreUsages] at h
      cases i with
      | zero =>
        refine ⟨earlier, later, rfl, rfl, ?_⟩
        cases host <;> simpa using h.symm
      | succ i =>
        obtain ⟨earlier', later', hearlier, hlater, hcore⟩ := ih h
        refine ⟨earlier', later', hearlier, hlater, ?_⟩
        cases host <;> simpa using hcore

/-- What is reported of a core: its counter showed these words at the ends of an interval, the
container had these ticks, and these are the host's shares for the core, if it has any. -/
structure CoreUsage.Accounts (seconds : ℚ) (earlier later user system : UInt64)
    (host : Option (HostShares ℚ)) (core : CoreUsage ℚ) : Prop where
  /-- The busy time is what the counter has gained, in percent of the interval, and at most 100. -/
  utilization : core.utilization =
    if 0 < seconds then
      min 100 (100 * ((later.toNat - earlier.toNat : ℕ) : ℚ) / (1000000000 * seconds))
    else 0
  /-- It is a percentage even if the counter went back. -/
  bounds : 0 ≤ core.utilization ∧ core.utilization ≤ 100
  /-- The rest of the core is idle. -/
  idle : core.idle + core.utilization = 100
  /-- User time is a part of the busy time. -/
  user_le : 0 ≤ core.user ∧ core.user ≤ core.utilization
  /-- System time is a part of the busy time. -/
  system_le : 0 ≤ core.system ∧ core.system ≤ core.utilization
  /-- With ticks the two make up the busy time, in the proportion of the ticks. -/
  split : user ≠ 0 ∨ system ≠ 0 → core.user + core.system = core.utilization ∧
    core.user * system.toNat = core.system * user.toNat
  /-- Without ticks there is neither user nor system time. -/
  unsplit : user = 0 → system = 0 → core.user = 0 ∧ core.system = 0
  /-- The host's figures are copied. -/
  copied : ∀ shares, host = some shares → core.nice = shares.nice ∧ core.wait = shares.iowait ∧
    core.interrupt = shares.irq ∧ core.steal = shares.steal
  /-- Where the host has none they are zero. -/
  missing : host = none → core.nice = 0 ∧ core.wait = 0 ∧ core.interrupt = 0 ∧ core.steal = 0

/-- Weights that split as they should make a core's figures what they should be. -/
theorem TickWeights.Split.accounts {weights : TickWeights ℚ} (h : weights.Split user system)
    (seconds : ℚ) (earlier later : UInt64) (host : Option (HostShares ℚ)) :
    (coreUsage weights (coreUtilization seconds earlier later)
      (host.getD HostShares.none)).Accounts seconds earlier later user system host := by
  have hbounds := coreUtilization_bounds seconds earlier later
  have hexact := coreUtilization_rat seconds earlier later
  generalize coreUtilization seconds earlier later = busy at hbounds hexact
  obtain ⟨hlow, hhigh⟩ := hbounds
  have hpart {weight : ℚ} (hweight : 0 ≤ weight ∧ weight ≤ 1) :
      0 ≤ busy * weight ∧ busy * weight ≤ busy :=
    ⟨mul_nonneg hlow hweight.1, mul_le_of_le_one_right hlow hweight.2⟩
  refine ⟨hexact, ⟨hlow, hhigh⟩, ?_, hpart h.user_le, hpart h.system_le, fun hticks => ?_,
    fun huser hsystem => ?_, fun shares hshares => ?_, fun hnone => ?_⟩
  · exact sub_add_cancel (100 : ℚ) busy
  · obtain ⟨hwhole, hratio⟩ := h.whole hticks
    show busy * weights.user + busy * weights.system = busy ∧
      busy * weights.user * system.toNat = busy * weights.system * user.toNat
    rw [← mul_add, hwhole, mul_one, mul_assoc, hratio, mul_assoc]
    exact ⟨rfl, rfl⟩
  · obtain ⟨hzero, hzero'⟩ := h.nothing huser hsystem
    show busy * weights.user = 0 ∧ busy * weights.system = 0
    rw [hzero, hzero', mul_zero]
    exact ⟨rfl, rfl⟩
  · subst hshares
    exact ⟨rfl, rfl, rfl, rfl⟩
  · subst hnone
    exact ⟨rfl, rfl, rfl, rfl⟩

/-- **The use of the cores, exactly.** For any two readings of the counters, any interval between
them, any user and system ticks that have a sum and any shares of the host, the use of the cores
that both readings have is computed, and each core's figures are those of its counters at the two
ends of the interval, of the ticks and of the host's shares at the same place. -/
theorem computeCoreUsage_exact (before current : List UInt64) (interval : Duration)
    (user system : UInt64) (host : List (HostShares ℚ))
    (hticks : user.toNat + system.toNat < UInt64.size) :
    ∃ cores : List (CoreUsage ℚ),
      computeCoreUsage before current interval user system host = .ok cores ∧
      cores.length = min before.length current.length ∧
      ∀ (i : ℕ) (core : CoreUsage ℚ), cores[i]? = some core → ∃ earlier later,
        before[i]? = some earlier ∧ current[i]? = some later ∧
          core.Accounts (interval.nanos / 1000000000) earlier later user system host[i]? := by
  obtain ⟨weights, hweights, hsplit⟩ := tickWeights_rat hticks
  refine ⟨coreUsages weights interval.inSeconds before current host, ?_, ?_, ?_⟩
  · rw [computeCoreUsage, hweights]
    rfl
  · exact length_coreUsages weights interval.inSeconds before current host
  · intro i core hcore
    obtain ⟨earlier, later, hearlier, hlater, rfl⟩ := coreUsages_getElem? hcore
    refine ⟨earlier, later, hearlier, hlater, ?_⟩
    rw [Duration.inSeconds_rat]
    exact hsplit.accounts _ earlier later host[i]?

/-- In ten seconds one core was busy for two, and the counter of another went back. -/
theorem computeCoreUsage_exact_uneven :
    (1 : UInt64).toNat + (3 : UInt64).toNat < UInt64.size ∧
    ∃ busy back : CoreUsage ℚ,
      computeCoreUsage [1000000000, 9, 5] [3000000000, 3] (.ofSeconds 10) 1 3 [⟨1, 2, 3, 4⟩] =
        .ok [busy, back] ∧
      busy.utilization = 20 ∧ busy.idle = 80 ∧ busy.user = 5 ∧ busy.system = 15 ∧
      busy.wait = 2 ∧ back.utilization = 0 ∧ back.user = 0 ∧ back.wait = 0 := by
  have hticks : (1 : UInt64).toNat + (3 : UInt64).toNat < UInt64.size := by decide
  obtain ⟨cores, hcores, hlength, haccounts⟩ := computeCoreUsage_exact [1000000000, 9, 5]
    [3000000000, 3] (.ofSeconds 10) 1 3 [⟨1, 2, 3, 4⟩] hticks
  obtain ⟨busy, back, rfl⟩ := List.length_eq_two.mp hlength
  obtain ⟨_, _, hearlier, hlater, hbusy⟩ := haccounts 0 busy rfl
  obtain rfl := Option.some.inj hearlier
  obtain rfl := Option.some.inj hlater
  obtain ⟨_, _, hearlier, hlater, hback⟩ := haccounts 1 back rfl
  obtain rfl := Option.some.inj hearlier
  obtain rfl := Option.some.inj hlater
  refine ⟨hticks, busy, back, hcores, ?_⟩
  have hseconds : ((Duration.ofSeconds 10).nanos : ℚ) / 1000000000 = 10 := by
    have hnanos : (Duration.ofSeconds 10).nanos = 10000000000 := rfl
    rw [hnanos]
    norm_num
  rw [hseconds] at hbusy hback
  have hutilization : busy.utilization = 20 := by
    have hgain : (3000000000 : UInt64).toNat - (1000000000 : UInt64).toNat = 2000000000 := rfl
    rw [hbusy.utilization, hgain]
    norm_num
  have hnothing : back.utilization = 0 := by
    have hgain : (3 : UInt64).toNat - (9 : UInt64).toNat = 0 := rfl
    rw [hback.utilization, hgain]
    norm_num
  obtain ⟨hwhole, hratio⟩ := hbusy.split (by decide)
  replace hratio : busy.user * (3 : ℕ) = busy.system * (1 : ℕ) := hratio
  push_cast at hratio
  obtain ⟨hlow, hhigh⟩ := hback.user_le
  exact ⟨hutilization, by linarith [hbusy.idle], by linarith, by linarith,
    (hbusy.copied _ rfl).2.1, hnothing, by linarith, (hback.missing rfl).2.1⟩

end Periscope
