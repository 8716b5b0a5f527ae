/-!
# Association lists in key order

Tables that are shown to the outside are lists of pairs with strictly increasing
keys. Inserting under a key that is present replaces its value, so of several pairs
with one key the last one counts.
-/

namespace Periscope.Pairs

variable {κ α : Type} [Ord κ]

/-- Stores a value under a key, at the place the order of the keys asks for. -/
def insert (key : κ) (value : α) : List (κ × α) → List (κ × α)
  | [] => [(key, value)]
  | (other, old) :: rest =>
    match compare key other with
    | .lt => (key, value) :: (other, old) :: rest
    | .eq => (key, value) :: rest
    | .gt => (other, old) :: insert key value rest

/-- The value stored under a key. -/
def find? (key : κ) : List (κ × α) → Option α
  | [] => none
  | (other, value) :: rest =>
    if compare key other = .eq then some value else find? key rest

/-- Removes the pair stored under a key. -/
def erase (key : κ) (pairs : List (κ × α)) : List (κ × α) :=
  pairs.filter fun pair => compare key pair.1 ≠ .eq

/-- The table of a list of pairs in any order; a later pair replaces an earlier one. -/
def ofList (pairs : List (κ × α)) : List (κ × α) :=
  pairs.foldl (fun table pair => insert pair.1 pair.2 table) []

/-- What was just stored is found. -/
theorem find?_insert_self [Std.LawfulEqOrd κ] (key : κ) (value : α) (pairs : List (κ × α)) :
    find? key (insert key value pairs) = some value := by
  induction pairs with
  | nil => simp [insert, find?]
  | cons pair rest ih =>
    simp only [insert]
    split
    · simp [find?]
    · simp [find?]
    · next h => simp [find?, h, ih]

/-- Storing leaves what is found under other keys. -/
theorem find?_insert_of_ne [Std.LawfulEqOrd κ] {key other : κ} (hne : other ≠ key) (value : α)
    (pairs : List (κ × α)) : find? other (insert key value pairs) = find? other pairs := by
  have hkey : compare other key ≠ .eq := fun h => hne (Std.LawfulEqOrd.eq_of_compare h)
  induction pairs with
  | nil => simp [insert, find?, hkey]
  | cons pair rest ih =>
    simp only [insert]
    split
    · simp [find?, hkey]
    · next hpair =>
      have hsame : key = pair.1 := Std.LawfulEqOrd.eq_of_compare hpair
      simp [find?, ← hsame, hkey]
    · simp [find?, ih]

/-- What is found is stored. -/
theorem exists_mem_of_find? {key : κ} {value : α} {pairs : List (κ × α)}
    (h : find? key pairs = some value) :
    ∃ pair ∈ pairs, compare key pair.1 = .eq ∧ pair.2 = value := by
  induction pairs with
  | nil => cases h
  | cons pair rest ih =>
    by_cases hkey : compare key pair.1 = .eq
    · rw [find?, if_pos hkey] at h
      exact ⟨pair, List.mem_cons_self, hkey, Option.some.inj h⟩
    · rw [find?, if_neg hkey] at h
      obtain ⟨found, hmem, hfound⟩ := ih h
      exact ⟨found, List.mem_cons_of_mem _ hmem, hfound⟩

/-- Under a key of the table something is found. -/
theorem find?_isSome [Std.LawfulEqOrd κ] {key : κ} {pairs : List (κ × α)}
    (h : key ∈ pairs.map Prod.fst) : (find? key pairs).isSome := by
  induction pairs with
  | nil => simp at h
  | cons pair rest ih =>
    by_cases hkey : compare key pair.1 = .eq
    · simp [find?, hkey]
    · rw [find?, if_neg hkey]
      rcases List.mem_cons.mp h with rfl | h
      · exact absurd Std.ReflCmp.compare_self hkey
      · exact ih h

/-- After storing pairs the last one with a key tells what is found under it, and what was found
before is found if there is none. -/
theorem find?_foldl_insert_eq_some_iff [Std.LawfulEqOrd κ] {key : κ} {value : α}
    {pairs table : List (κ × α)} :
    find? key (pairs.foldl (fun table pair => insert pair.1 pair.2 table) table) = some value ↔
      (∃ before behind, pairs = before ++ (key, value) :: behind ∧
        ∀ pair ∈ behind, pair.1 ≠ key) ∨
      ((∀ pair ∈ pairs, pair.1 ≠ key) ∧ find? key table = some value) := by
  induction pairs generalizing table with
  | nil => simp
  | cons first rest ih =>
    obtain ⟨other, old⟩ := first
    rw [List.foldl_cons, ih]
    constructor
    · rintro (⟨before, behind, rfl, hbehind⟩ | ⟨hrest, hfind⟩)
      · exact .inl ⟨(other, old) :: before, behind, rfl, hbehind⟩
      · by_cases hkey : other = key
        · subst hkey
          rw [find?_insert_self] at hfind
          obtain rfl := Option.some.inj hfind
          exact .inl ⟨[], rest, rfl, hrest⟩
        · rw [find?_insert_of_ne (Ne.symm hkey)] at hfind
          exact .inr ⟨List.forall_mem_cons.mpr ⟨hkey, hrest⟩, hfind⟩
    · rintro (⟨before, behind, hsplit, hbehind⟩ | ⟨hnone, hfind⟩)
      · cases before with
        | nil =>
          obtain ⟨hfirst, rfl⟩ := List.cons.inj hsplit
          obtain ⟨rfl, rfl⟩ := Prod.mk.inj hfirst
          exact .inr ⟨hbehind, find?_insert_self _ _ _⟩
        | cons _ before =>
          obtain ⟨_, rfl⟩ := List.cons.inj hsplit
          exact .inl ⟨before, behind, rfl, hbehind⟩
      · obtain ⟨hkey, hrest⟩ := List.forall_mem_cons.mp hnone
        exact .inr ⟨hrest, by rw [find?_insert_of_ne (Ne.symm hkey), hfind]⟩

/-- Of the pairs that a table is made of, the last one with a key tells what is found under it. -/
theorem find?_ofList_eq_some_iff [Std.LawfulEqOrd κ] {key : κ} {value : α} {pairs : List (κ × α)} :
    find? key (ofList pairs) = some value ↔
      ∃ before behind, pairs = before ++ (key, value) :: behind ∧ ∀ pair ∈ behind, pair.1 ≠ key := by
  rw [ofList, find?_foldl_insert_eq_some_iff, find?]
  simp

/-- A pair whose key is greater than all others comes last. -/
theorem insert_eq_append (key : κ) (value : α) (pairs : List (κ × α))
    (h : ∀ pair ∈ pairs, compare key pair.1 = .gt) :
    insert key value pairs = pairs ++ [(key, value)] := by
  induction pairs with
  | nil => rfl
  | cons pair rest ih =>
    obtain ⟨hpair, hrest⟩ := List.forall_mem_cons.mp h
    simp [insert, hpair, ih hrest]

/-- A stored key is among the keys, and so are those from before. -/
theorem mem_keys_insert [Std.LawfulEqOrd κ] {key other : κ} {value : α} {pairs : List (κ × α)} :
    other ∈ (insert key value pairs).map Prod.fst ↔ other = key ∨ other ∈ pairs.map Prod.fst := by
  induction pairs with
  | nil => simp [insert]
  | cons pair rest ih =>
    simp only [insert]
    split
    · simp
    · next heq =>
      obtain rfl : key = pair.1 := Std.LawfulEqOrd.eq_of_compare heq
      simp
    · simp only [List.map_cons, List.mem_cons, ih]
      exact or_left_comm

/-- Storing keeps the keys in order, each once. -/
theorem pairwise_insert [Std.TransOrd κ] [Std.LawfulEqOrd κ] (key : κ) (value : α)
    {pairs : List (κ × α)} (h : (pairs.map Prod.fst).Pairwise (compare · · = .lt)) :
    ((insert key value pairs).map Prod.fst).Pairwise (compare · · = .lt) := by
  induction pairs with
  | nil => simp [insert]
  | cons pair rest ih =>
    obtain ⟨hfirst, hrest⟩ := List.pairwise_cons.mp h
    simp only [insert]
    split
    · next hlt =>
      refine List.pairwise_cons.mpr ⟨fun other hother => ?_, h⟩
      rcases List.mem_cons.mp hother with rfl | hother
      · exact hlt
      · exact Std.TransCmp.lt_trans hlt (hfirst other hother)
    · next heq =>
      obtain rfl : key = pair.1 := Std.LawfulEqOrd.eq_of_compare heq
      exact h
    · next hgt =>
      refine List.pairwise_cons.mpr ⟨fun other hother => ?_, ih hrest⟩
      rcases mem_keys_insert.mp hother with rfl | hother
      · exact Std.OrientedCmp.lt_of_gt hgt
      · exact hfirst other hother

/-- A table has its keys in order, each once. -/
theorem pairwise_ofList [Std.TransOrd κ] [Std.LawfulEqOrd κ] (pairs : List (κ × α)) :
    ((ofList pairs).map Prod.fst).Pairwise (compare · · = .lt) := by
  have hfold (table : List (κ × α)) (h : (table.map Prod.fst).Pairwise (compare · · = .lt)) :
      ((pairs.foldl (fun table pair => insert pair.1 pair.2 table) table).map
        Prod.fst).Pairwise (compare · · = .lt) := by
    induction pairs generalizing table with
    | nil => exact h
    | cons pair rest ih => exact ih _ (pairwise_insert pair.1 pair.2 h)
  exact hfold [] .nil

end Periscope.Pairs
