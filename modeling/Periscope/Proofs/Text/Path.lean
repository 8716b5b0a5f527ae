import Periscope.Text.Path

/-!
# The names in a joined path

Joining a relative path puts its names behind those of the base, whatever slashes stand at the end
of the base. Dots that stay in place drop out, but for one in front of everything.
-/

namespace Periscope

/-- The names in a path but for the dots that stay in place. -/
def dotless (path : List Char) : List (List Char) := (pathNames path).filter (· ≠ ['.'])

/-- A text that is one name in a path. -/
def IsName (name : List Char) : Prop := name ≠ [] ∧ '/' ∉ name ∧ name ≠ ['.']

instance (name : List Char) : Decidable (IsName name) :=
  inferInstanceAs (Decidable (name ≠ [] ∧ '/' ∉ name ∧ name ≠ ['.']))

section Names

variable {base path name : List Char}

/-- A slash divides the names in front of it from those behind it. -/
theorem pathNames_append_slash (front back : List Char) :
    pathNames (front ++ '/' :: back) = pathNames front ++ pathNames back := by
  rw [pathNames, List.splitOnP_append_cons front back (by decide), List.filter_append]
  rfl

/-- Characters in a row that are no slashes are one name. -/
theorem pathNames_word (hne : name ≠ []) (hslash : '/' ∉ name) : pathNames name = [name] := by
  have hword : ∀ c ∈ name, decide (c = '/') = false := by
    intro c hc
    refine decide_eq_false ?_
    rintro rfl
    exact hslash hc
  rw [pathNames, List.splitOnP_eq_singleton hword]
  simp [hne]

theorem IsName.pathNames_eq (h : IsName name) : pathNames name = [name] :=
  pathNames_word h.1 h.2.1

theorem IsName.dotless_eq (h : IsName name) : dotless name = [name] := by
  rw [dotless, h.pathNames_eq]
  simp [h.2.2]

theorem IsName.relative (h : IsName name) : isAbsolute name = false := by
  cases name with
  | nil => rfl
  | cons c rest =>
    have hc : c ≠ '/' := Ne.symm (List.ne_of_not_mem_cons h.2.1)
    simp [isAbsolute, hc]

/-- A path that ends with a name has a last name, which ends with it. -/
theorem IsName.exists_pathNames_append (h : IsName name) (front : List Char) :
    ∃ names before, pathNames (front ++ name) = names ++ [before ++ name] := by
  obtain ⟨hne, hslash, _⟩ := h
  by_cases hmem : '/' ∈ front
  · obtain ⟨behind, before, hreverse, hbehind⟩ :=
      List.eq_append_cons_of_mem (List.mem_reverse.mpr hmem)
    have hfront : front = before.reverse ++ '/' :: behind.reverse := by
      simpa using congrArg List.reverse hreverse
    have hlast : pathNames (behind.reverse ++ name) = [behind.reverse ++ name] :=
      pathNames_word (by simp [hne]) (by simp [hbehind, hslash])
    refine ⟨pathNames before.reverse, behind.reverse, ?_⟩
    rw [hfront, List.append_assoc, List.cons_append, pathNames_append_slash, hlast]
  · exact ⟨[], front, pathNames_word (by simp [hne]) (by simp [hmem, hslash])⟩

theorem dotless_append_slash (front back : List Char) :
    dotless (front ++ '/' :: back) = dotless front ++ dotless back := by
  rw [dotless, pathNames_append_slash, List.filter_append, dotless, dotless]

/-- The last name of such a path is no dot that stays in place. -/
theorem IsName.exists_dotless_append (h : IsName name) (front : List Char) :
    ∃ names before, dotless (front ++ name) = names ++ [before ++ name] := by
  obtain ⟨names, before, hnames⟩ := h.exists_pathNames_append front
  have hlast : before ++ name ≠ ['.'] := by
    intro hdot
    rcases List.append_eq_singleton_iff.mp hdot with ⟨_, hname⟩ | ⟨_, hname⟩
    · exact h.2.2 hname
    · exact h.1 hname
  refine ⟨names.filter (· ≠ ['.']), before, ?_⟩
  rw [dotless, hnames, List.filter_append]
  simp [hlast]

end Names

section Joining

variable {base path name : List Char}

/-- A relative path has its names behind those of the base. -/
theorem pathNames_joinChars (hpath : isAbsolute path = false) :
    pathNames (joinChars base path) = pathNames base ++ pathNames path := by
  rw [joinChars, if_neg (by simp [hpath])]
  split
  · next hend =>
    rcases hend with rfl | hlast
    · rfl
    · obtain ⟨front, rfl⟩ := List.getLast?_eq_some_iff.mp hlast
      rw [List.append_assoc, List.singleton_append, pathNames_append_slash, pathNames_append_slash,
        List.append_assoc]
      rfl
  · exact pathNames_append_slash base path

/-- A relative path leads from where its base starts. -/
theorem isAbsolute_joinChars (hpath : isAbsolute path = false) :
    isAbsolute (joinChars base path) = isAbsolute base := by
  rw [joinChars, if_neg (by simp [hpath])]
  cases base with
  | nil =>
    rw [if_pos (.inl rfl)]
    exact hpath
  | cons c rest => split <;> rfl

/-- The parts of a path are its names but for the dots, behind a dot in front of everything. -/
theorem pathParts_eq (path : List Char) :
    pathParts path =
      (if (pathNames path).head? = some ['.'] ∧ ¬ isAbsolute path then [['.']] else []) ++
        dotless path := by
  rw [pathParts, dotless]
  cases pathNames path with
  | nil => rfl
  | cons first rest =>
    simp only [List.head?_cons, Option.some.injEq]
    split
    · next hdot =>
      simp [hdot.1]
    · rfl

theorem pathNames_ne_nil {path : List Char} (h : pathParts path ≠ []) : pathNames path ≠ [] :=
  fun hnil => h (by rw [pathParts, hnil])

/-- A relative path has its parts behind those of a base with a name, and behind any base if it does
not start with a dot. -/
theorem pathParts_joinChars (hpath : isAbsolute path = false)
    (h : pathNames base ≠ [] ∨ (pathNames path).head? ≠ some ['.']) :
    pathParts (joinChars base path) = pathParts base ++ dotless path := by
  have hdotless : dotless (joinChars base path) = dotless base ++ dotless path := by
    rw [dotless, pathNames_joinChars hpath, List.filter_append, dotless, dotless]
  rw [pathParts_eq, pathParts_eq, hdotless, isAbsolute_joinChars hpath, pathNames_joinChars hpath]
  cases hbase : pathNames base with
  | nil =>
    have hhead : (pathNames path).head? ≠ some ['.'] := h.resolve_left (absurd hbase)
    simp [hhead]
  | cons first rest => simp

/-- A name stands behind the parts of its base. -/
theorem IsName.pathParts_joinChars (h : IsName name) (base : List Char) :
    pathParts (joinChars base name) = pathParts base ++ [name] := by
  have hhead : (pathNames name).head? ≠ some ['.'] := by
    rw [h.pathNames_eq]
    simpa using h.2.2
  rw [Periscope.pathParts_joinChars h.relative (.inr hhead), h.dotless_eq]

theorem toList_joinPath (base path : String) :
    (joinPath base path).toList = joinChars base.toList path.toList := String.toList_ofList

/-- Names stand behind the parts of their base in order. -/
theorem pathParts_joinPaths {names : List String} (hnames : ∀ name ∈ names, IsName name.toList)
    (base : String) :
    pathParts (joinPaths base names).toList =
      pathParts base.toList ++ names.map String.toList := by
  induction names generalizing base with
  | nil => simp [joinPaths]
  | cons name names ih =>
    obtain ⟨hname, hnames⟩ := List.forall_mem_cons.mp hnames
    have hjoin : joinPaths base (name :: names) = joinPaths (joinPath base name) names := rfl
    rw [hjoin, ih hnames, toList_joinPath, hname.pathParts_joinChars]
    simp

theorem isAbsolute_joinPaths {names : List String} (hnames : ∀ name ∈ names, IsName name.toList)
    (base : String) : isAbsolute (joinPaths base names).toList = isAbsolute base.toList := by
  induction names generalizing base with
  | nil => rfl
  | cons name names ih =>
    obtain ⟨hname, hnames⟩ := List.forall_mem_cons.mp hnames
    have hjoin : joinPaths base (name :: names) = joinPaths (joinPath base name) names := rfl
    rw [hjoin, ih hnames, toList_joinPath, isAbsolute_joinChars hname.relative]

end Joining

theorem samePath_iff {a b : String} :
    samePath a b = true ↔
      isAbsolute a.toList = isAbsolute b.toList ∧ pathParts a.toList = pathParts b.toList := by
  simp [samePath]

end Periscope
