import Periscope.Text.Offset

/-!
# Places that offsets lead to

Every way to cut a text in two has an offset of its own, so that an offset found by a search leads
back to the place that was found.
-/

namespace Periscope

section Sizes

/-- The size of a text is that of its characters as bytes. -/
theorem utf8ByteSize_eq_byteSize (s : String) : s.utf8ByteSize = byteSize s.toList := by
  have hlist (cs : List Char) : (String.ofList cs).utf8ByteSize = byteSize cs := by
    induction cs with
    | nil => rfl
    | cons c rest ih =>
      rw [String.ofList_cons, String.utf8ByteSize_append, String.utf8ByteSize_singleton, ih]
      rfl
  rw [← hlist s.toList, String.ofList_toList]

@[simp] theorem byteSize_nil : byteSize [] = 0 := rfl

@[simp] theorem byteSize_cons (c : Char) (rest : List Char) :
    byteSize (c :: rest) = c.utf8Size + byteSize rest := rfl

@[simp] theorem byteSize_append (front back : List Char) :
    byteSize (front ++ back) = byteSize front + byteSize back := by
  induction front with
  | nil => simp
  | cons c front ih => rw [List.cons_append, byteSize_cons, ih, byteSize_cons, Nat.add_assoc]

end Sizes

section Searches

variable {c : Char} {s : List Char}

/-- A character is first at the end of a front that does not have it. -/
theorem firstOffset?_eq_some_iff {offset : Nat} :
    firstOffset? c s = some offset ↔
      ∃ front back, s = front ++ c :: back ∧ c ∉ front ∧ byteSize front = offset := by
  constructor
  · intro h
    induction s generalizing offset with
    | nil => cases h
    | cons d rest ih =>
      rw [firstOffset?] at h
      split at h
      · next heq =>
        obtain rfl := heq
        exact ⟨[], rest, rfl, List.not_mem_nil, Option.some.inj h⟩
      · next hne =>
        obtain ⟨behind, hbehind, rfl⟩ := Option.map_eq_some_iff.mp h
        obtain ⟨front, back, rfl, hfront, rfl⟩ := ih hbehind
        exact ⟨d :: front, back, rfl, List.not_mem_cons_of_ne_of_not_mem (Ne.symm hne) hfront,
          byteSize_cons d front⟩
  · rintro ⟨front, back, rfl, hfront, rfl⟩
    induction front with
    | nil => exact if_pos rfl
    | cons d front ih =>
      have hne := Ne.symm (List.ne_of_not_mem_cons hfront)
      rw [List.cons_append, firstOffset?, if_neg hne, ih (List.not_mem_of_not_mem_cons hfront),
        byteSize_cons]
      rfl

theorem lastOffset?_eq_none_iff : lastOffset? c s = none ↔ c ∉ s := by
  induction s with
  | nil => exact iff_of_true rfl List.not_mem_nil
  | cons d rest ih =>
    rw [lastOffset?, List.mem_cons, not_or, ← ih]
    cases lastOffset? c rest with
    | none => simp [eq_comm]
    | some offset => simp

/-- A character is last in front of a back that does not have it. -/
theorem lastOffset?_eq_some_iff {offset : Nat} :
    lastOffset? c s = some offset ↔
      ∃ front back, s = front ++ c :: back ∧ c ∉ back ∧ byteSize front = offset := by
  constructor
  · intro h
    induction s generalizing offset with
    | nil => cases h
    | cons d rest ih =>
      rw [lastOffset?] at h
      split at h
      · next behind hbehind =>
        obtain ⟨front, back, rfl, hback, rfl⟩ := ih hbehind
        exact ⟨d :: front, back, rfl, hback, (byteSize_cons d front).trans (Option.some.inj h)⟩
      · next hnone =>
        split at h
        · next heq =>
          obtain rfl := heq
          exact ⟨[], rest, rfl, lastOffset?_eq_none_iff.mp hnone, Option.some.inj h⟩
        · cases h
  · rintro ⟨front, back, rfl, hback, rfl⟩
    induction front with
    | nil => simp [lastOffset?, lastOffset?_eq_none_iff.mpr hback]
    | cons d front ih =>
      rw [List.cons_append, lastOffset?, ih, byteSize_cons]

end Searches

section Cuts

variable {s front middle back : List Char} {start stop : Nat}

theorem splitAtOffset?_zero : splitAtOffset? 0 s = some ([], s) := by
  cases s <;> rfl

/-- A text is cut where the front is as large as the offset says. -/
theorem splitAtOffset?_eq_some_iff :
    splitAtOffset? start s = some (front, back) ↔ s = front ++ back ∧ byteSize front = start := by
  constructor
  · intro h
    induction s generalizing start front with
    | nil =>
      cases start with
      | zero =>
        obtain ⟨rfl, rfl⟩ := Prod.mk.inj (Option.some.inj h)
        exact ⟨rfl, rfl⟩
      | succ start => cases h
    | cons c rest ih =>
      cases start with
      | zero =>
        obtain ⟨rfl, rfl⟩ := Prod.mk.inj (Option.some.inj h)
        exact ⟨rfl, rfl⟩
      | succ start =>
        rw [splitAtOffset?] at h
        split at h
        · next hfits =>
          obtain ⟨⟨front', back'⟩, hrest, hcut⟩ := Option.map_eq_some_iff.mp h
          obtain ⟨rfl, rfl⟩ := Prod.mk.inj hcut
          obtain ⟨rfl, hsize⟩ := ih hrest
          refine ⟨rfl, ?_⟩
          rw [byteSize_cons, hsize, Nat.add_sub_cancel' hfits]
        · cases h
  · rintro ⟨rfl, rfl⟩
    induction front with
    | nil => exact splitAtOffset?_zero
    | cons c front ih =>
      obtain ⟨size, hsize⟩ : ∃ size, c.utf8Size = size + 1 :=
        Nat.exists_eq_add_one.mpr c.utf8Size_pos
      have hshift : byteSize (c :: front) = size + byteSize front + 1 := by
        rw [byteSize_cons, hsize]
        omega
      rw [List.cons_append, hshift, splitAtOffset?, if_pos (by omega)]
      have hleft : size + byteSize front + 1 - c.utf8Size = byteSize front := by omega
      rw [hleft, ih]
      rfl

/-- There is one way to cut a text at an offset. -/
theorem eq_of_byteSize_eq {front' back' : List Char} (h : front ++ back = front' ++ back')
    (hsize : byteSize front = byteSize front') : front = front' ∧ back = back' := by
  have hcut : splitAtOffset? (byteSize front) (front ++ back) = some (front, back) :=
    splitAtOffset?_eq_some_iff.mpr ⟨rfl, rfl⟩
  rw [splitAtOffset?_eq_some_iff.mpr ⟨h, hsize.symm⟩] at hcut
  exact Prod.mk.inj (Option.some.inj hcut.symm)

theorem sliceFrom?_eq_some_iff :
    sliceFrom? start s = some back ↔ ∃ front, s = front ++ back ∧ byteSize front = start := by
  rw [sliceFrom?, Option.map_eq_some_iff]
  constructor
  · rintro ⟨⟨front, _⟩, hcut, rfl⟩
    exact ⟨front, splitAtOffset?_eq_some_iff.mp hcut⟩
  · rintro ⟨front, hcut⟩
    exact ⟨(front, back), splitAtOffset?_eq_some_iff.mpr hcut, rfl⟩

/-- A slice stands between a front and a back, at the offsets where it starts and stops. -/
theorem slice?_eq_some_iff :
    slice? start stop s = some middle ↔
      ∃ front back, s = front ++ middle ++ back ∧ byteSize front = start ∧
        byteSize (front ++ middle) = stop := by
  rw [slice?]
  constructor
  · intro h
    split at h
    · next hle =>
      obtain ⟨rest, hrest, h⟩ := Option.bind_eq_some_iff.mp h
      obtain ⟨⟨_, back⟩, hmiddle, h⟩ := Option.bind_eq_some_iff.mp h
      obtain rfl := Option.some.inj h
      obtain ⟨front, rfl, rfl⟩ := sliceFrom?_eq_some_iff.mp hrest
      obtain ⟨rfl, hsize⟩ := splitAtOffset?_eq_some_iff.mp hmiddle
      refine ⟨front, back, (List.append_assoc _ _ _).symm, rfl, ?_⟩
      rw [byteSize_append, hsize, Nat.add_sub_cancel' hle]
    · cases h
  · rintro ⟨front, back, rfl, rfl, rfl⟩
    have hrest : sliceFrom? (byteSize front) (front ++ middle ++ back) = some (middle ++ back) :=
      sliceFrom?_eq_some_iff.mpr ⟨front, List.append_assoc _ _ _, rfl⟩
    have hmiddle : splitAtOffset? (byteSize middle) (middle ++ back) = some (middle, back) :=
      splitAtOffset?_eq_some_iff.mpr ⟨rfl, rfl⟩
    rw [byteSize_append, if_pos (Nat.le_add_right _ _), hrest, Nat.add_sub_cancel_left]
    simp [hmiddle]

end Cuts

end Periscope
