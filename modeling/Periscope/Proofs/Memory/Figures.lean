import Periscope.Cgroup.Memory
import Periscope.Proofs.Figure

/-!
# The memory figures of a container, exactly

What a container can still use is what its limit leaves, and no more than the host has free. Sums
that stop at the greatest word could lose some of it, but what a limit leaves makes at most the
limit together with what is used. So no sum stops there, and no difference is taken below zero
but for a container that uses more than its limit.
-/

namespace Periscope

variable {α : Type} [Figure α]

/-- The figures derived with each sum and difference checked: there are none if a sum is no word or
a difference is below zero. Only what the limit leaves may stop at zero. -/
def deriveMemoryChecked (used limit hostFree cached buffered : UInt64) :
    Option (MemoryUsage α) := do
  let headroom := min hostFree (subtractWords limit used)
  let total ← (addWords used headroom).toOption
  let free ← if used ≤ total then some (total - used) else none
  let whole ← (addWords used free).toOption
  return { used, free, buffered, cached
           utilization :=
             if whole = 0 then none
             else some (Figure.ofWord used * Figure.ofWord 100 / Figure.ofWord whole) }

/-- What the limit leaves, and no more than the host has free. -/
def headroom (used limit hostFree : UInt64) : UInt64 := min hostFree (subtractWords limit used)

theorem toNat_headroom (used limit hostFree : UInt64) :
    (headroom used limit hostFree).toNat = min hostFree.toNat (limit.toNat - used.toNat) := by
  rw [headroom, UInt64.toNat_min, toNat_subtractWords]

/-- The headroom does not lead beyond the limit, unless more is used already. -/
theorem add_headroom_le (used limit hostFree : UInt64) :
    used.toNat + (headroom used limit hostFree).toNat ≤ max used.toNat limit.toNat := by
  rw [toNat_headroom]
  omega

theorem add_headroom_lt (used limit hostFree : UInt64) :
    used.toNat + (headroom used limit hostFree).toNat < UInt64.size :=
  Nat.lt_of_le_of_lt (add_headroom_le used limit hostFree)
    (Nat.max_lt.mpr ⟨used.toNat_lt, limit.toNat_lt⟩)

/-- What is used and the headroom have a sum. -/
theorem toNat_add_headroom (used limit hostFree : UInt64) :
    (used + headroom used limit hostFree).toNat =
      used.toNat + (headroom used limit hostFree).toNat := by
  rw [UInt64.toNat_add]
  exact Nat.mod_eq_of_lt (add_headroom_lt used limit hostFree)

/-- The figures with the headroom as what is free. -/
def withHeadroom (used limit hostFree cached buffered : UInt64) : MemoryUsage α :=
  let free := headroom used limit hostFree
  { used, free, buffered, cached
    utilization :=
      if used + free = 0 then none
      else some (Figure.ofWord used * Figure.ofWord 100 / Figure.ofWord (used + free)) }

private theorem add_headroom_sub (used limit hostFree : UInt64) :
    used + headroom used limit hostFree - used = headroom used limit hostFree := by
  rw [UInt64.add_comm, UInt64.add_sub_cancel]

/-- Neither sum of the derivation stops at the greatest word. -/
theorem deriveMemory_eq (used limit hostFree cached buffered : UInt64) :
    (deriveMemory used limit hostFree cached buffered : MemoryUsage α) =
      withHeadroom used limit hostFree cached buffered := by
  have hsum : addSaturating used (headroom used limit hostFree) =
      used + headroom used limit hostFree := if_pos (add_headroom_lt used limit hostFree)
  dsimp only [deriveMemory, withHeadroom]
  rw [← headroom, hsum, add_headroom_sub, hsum]

/-- No sum of the derivation is out of range, and no difference below zero. -/
theorem deriveMemoryChecked_eq (used limit hostFree cached buffered : UInt64) :
    (deriveMemoryChecked used limit hostFree cached buffered : Option (MemoryUsage α)) =
      some (withHeadroom used limit hostFree cached buffered) := by
  have hsum : addWords used (headroom used limit hostFree) =
      .ok (used + headroom used limit hostFree) := if_pos (add_headroom_lt used limit hostFree)
  have hle : used ≤ used + headroom used limit hostFree := by
    rw [UInt64.le_iff_toNat_le, toNat_add_headroom]
    exact Nat.le_add_right _ _
  dsimp only [deriveMemoryChecked, withHeadroom]
  rw [← headroom, hsum]
  simp only [Except.toOption, Option.bind_eq_bind, Option.bind_some, if_pos hle, add_headroom_sub,
    hsum]
  rfl

/-- What the figures of a container tell of the sizes that they are derived from. -/
structure MemoryUsage.Accounts (used limit hostFree cached buffered : UInt64)
    (usage : MemoryUsage α) : Prop where
  /-- The sizes of the container are passed on. -/
  copied : usage.used = used ∧ usage.cached = cached ∧ usage.buffered = buffered
  /-- What is free is what the limit leaves above what is used, if it leaves anything, and no more
  than the host has free. -/
  free : (usage.free.toNat : ℤ) =
    min (hostFree.toNat : ℤ) (max ((limit.toNat : ℤ) - used.toNat) 0)
  /-- What is used and what is free are a word together. -/
  fits : usage.used.toNat + usage.free.toNat < UInt64.size
  /-- They do not exceed the limit, unless more is used already. -/
  within : usage.used.toNat + usage.free.toNat ≤ max used.toNat limit.toNat
  /-- The used part is unknown exactly if nothing is used and nothing is free. -/
  unknown : usage.utilization = none ↔ usage.used = 0 ∧ usage.free = 0

theorem withHeadroom_accounts (used limit hostFree cached buffered : UInt64) :
    (withHeadroom used limit hostFree cached buffered : MemoryUsage α).Accounts used limit hostFree
      cached buffered where
  copied := ⟨rfl, rfl, rfl⟩
  free := by
    show ((headroom used limit hostFree).toNat : ℤ) = _
    rw [toNat_headroom]
    omega
  fits := add_headroom_lt used limit hostFree
  within := add_headroom_le used limit hostFree
  unknown := by
    have hzero : used + headroom used limit hostFree = 0 ↔
        used = 0 ∧ headroom used limit hostFree = 0 := by
      simp only [← UInt64.toNat_inj, toNat_add_headroom, UInt64.toNat_zero]
      omega
    simp [withHeadroom, ← hzero]

/-- A higher limit and more free memory of the host leave no less, and more use leaves no more. -/
theorem headroom_le_headroom {used used' limit limit' hostFree hostFree' : UInt64}
    (hused : used' ≤ used) (hlimit : limit ≤ limit') (hfree : hostFree ≤ hostFree') :
    headroom used limit hostFree ≤ headroom used' limit' hostFree' := by
  rw [UInt64.le_iff_toNat_le] at hused hlimit hfree ⊢
  rw [toNat_headroom, toNat_headroom]
  omega

/-- Read over the rationals, the used part is what is used of what is used or free, in percent. -/
theorem utilization_rat (used limit hostFree cached buffered : UInt64) :
    (withHeadroom used limit hostFree cached buffered : MemoryUsage ℚ).utilization =
      let whole := used.toNat + (headroom used limit hostFree).toNat
      if whole = 0 then none else some ((100 : ℚ) * used.toNat / whole) := by
  have hzero : used + headroom used limit hostFree = 0 ↔
      used.toNat + (headroom used limit hostFree).toNat = 0 := by
    rw [← UInt64.toNat_inj, toNat_add_headroom, UInt64.toNat_zero]
  have hundred : (Figure.ofWord 100 : ℚ) = 100 := by
    rw [Figure.ofWord_rat]
    rfl
  simp only [withHeadroom, hzero, hundred, Figure.ofWord_rat, toNat_add_headroom]
  rw [mul_comm]

/-- A used part of a whole is a percentage. -/
private theorem percentage_bounds (used free : ℕ) :
    (0 : ℚ) ≤ 100 * used / (used + free : ℕ) ∧ (100 : ℚ) * used / (used + free : ℕ) ≤ 100 := by
  refine ⟨by positivity, ?_⟩
  have hle : (used : ℚ) ≤ (used + free : ℕ) := by exact_mod_cast Nat.le_add_right used free
  exact div_le_of_le_mul₀ (by positivity) (by positivity)
    (mul_le_mul_of_nonneg_left hle (by norm_num))

/-- **The memory figures, exactly.** For any sizes of a container and of the host, each sum and
difference of the derivation is taken within its range. What is free is what the limit leaves, up
to what the host has free; it grows with either of them and shrinks with what is used. The used
part is known unless nothing is used and nothing is free, and then it is exactly what is used in
percent of what is used or free. -/
theorem deriveMemory_exact (used limit hostFree cached buffered : UInt64) :
    (∀ (α : Type) [Figure α],
      deriveMemoryChecked used limit hostFree cached buffered =
        some (deriveMemory used limit hostFree cached buffered : MemoryUsage α) ∧
      (deriveMemory used limit hostFree cached buffered : MemoryUsage α).Accounts used limit
        hostFree cached buffered ∧
      ∀ lower higher : UInt64, lower ≤ higher →
        (deriveMemory used lower hostFree cached buffered : MemoryUsage α).free ≤
          (deriveMemory used higher hostFree cached buffered : MemoryUsage α).free ∧
        (deriveMemory used limit lower cached buffered : MemoryUsage α).free ≤
          (deriveMemory used limit higher cached buffered : MemoryUsage α).free ∧
        (deriveMemory higher limit hostFree cached buffered : MemoryUsage α).free ≤
          (deriveMemory lower limit hostFree cached buffered : MemoryUsage α).free) ∧
    ∀ part : ℚ,
      (deriveMemory used limit hostFree cached buffered : MemoryUsage ℚ).utilization = some part →
        part = 100 * used.toNat / (used.toNat +
          (deriveMemory used limit hostFree cached buffered : MemoryUsage ℚ).free.toNat : ℕ) ∧
        0 ≤ part ∧ part ≤ 100 := by
  constructor
  · intro α _
    simp only [deriveMemory_eq]
    refine ⟨deriveMemoryChecked_eq used limit hostFree cached buffered,
      withHeadroom_accounts used limit hostFree cached buffered, fun lower higher hle => ?_⟩
    have same (n : UInt64) : n ≤ n := UInt64.le_refl n
    exact ⟨headroom_le_headroom (same _) hle (same _), headroom_le_headroom (same _) (same _) hle,
      headroom_le_headroom hle (same _) (same _)⟩
  · intro part hpart
    simp only [deriveMemory_eq] at hpart ⊢
    rw [utilization_rat] at hpart
    obtain ⟨_, hpart⟩ := Option.ite_none_left_eq_some.mp hpart
    obtain rfl := Option.some.inj hpart
    exact ⟨rfl, percentage_bounds used.toNat (headroom used limit hostFree).toNat⟩

/-- Two of ten bytes are used, and the host has enough. -/
example : (deriveMemory 2 10 10 0 0 : MemoryUsage ℚ).free = 8 ∧
    (deriveMemory 2 10 10 0 0 : MemoryUsage ℚ).utilization = some 20 := by decide +kernel

end Periscope
