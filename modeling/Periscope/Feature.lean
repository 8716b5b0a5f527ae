import Periscope.Json.Decoder
import Periscope.Misconfiguration
import Periscope.Text.Blank

/-!
# Features

A feature is one thing to find out about a container. The first two are looked at from
inside, the other two are read from the host's accounting files. Reports list features
in the order given here.
-/

namespace Periscope

/-- What is collected for a container. -/
inductive Feature where
  /-- The identity of the operating system. -/
  | os
  /-- The process table. -/
  | process
  /-- The use of each processor core. -/
  | cpu
  /-- The use of memory. -/
  | memory
  deriving Repr, DecidableEq, Inhabited

namespace Feature

/-- Every feature, in report order. -/
def all : List Feature := [.os, .process, .cpu, .memory]

/-- The place of a feature in a report. -/
def rank : Feature → Nat
  | .os => 0
  | .process => 1
  | .cpu => 2
  | .memory => 3

instance : Ord Feature := ⟨fun a b => compare a.rank b.rank⟩

/-- The name of a feature. -/
def name : Feature → String
  | .os => "os"
  | .process => "process"
  | .cpu => "cpu"
  | .memory => "memory"

/-- The feature with exactly this name. -/
def ofName? (name : String) : Option Feature := all.find? (·.name = name)

/-- Whether the feature is collected inside the container's namespaces. -/
def needsIsolation : Feature → Bool
  | .os | .process => true
  | .cpu | .memory => false

/-- Reads a feature from a word with blanks around it. -/
def parse (s : String) : Except Misconfiguration Feature :=
  let word := Text.trim s
  match ofName? word with
  | some feature => .ok feature
  | none => .error (.unknownFeature word)

/-- A feature as JSON. -/
def toJson (feature : Feature) : Json := .text feature.name

/-- A feature from JSON. -/
def decoder : Json.Decoder Feature := Json.Decoder.enumeration ofName?

/-- A feature is found by its name. -/
theorem ofName?_name (feature : Feature) : ofName? feature.name = some feature := by
  cases feature <;> rfl

/-- Features are told apart by their ranks. -/
theorem eq_of_rank_eq {a b : Feature} (h : a.rank = b.rank) : a = b := by
  cases a <;> cases b <;> first | rfl | exact absurd h (by decide)

instance : Std.LawfulEqOrd Feature where
  compare_self := Nat.compare_eq_eq.mpr rfl
  eq_of_compare h := eq_of_rank_eq (Nat.compare_eq_eq.mp h)

instance : Std.TransOrd Feature where
  eq_swap {a b} := show compare a.rank b.rank = (compare b.rank a.rank).swap from
    Std.OrientedCmp.eq_swap
  isLE_trans {a b c} hab hbc := show (compare a.rank c.rank).isLE from
    Std.TransCmp.isLE_trans (b := b.rank) hab hbc

/-- Features in report order, each once, are told by which ones they are. -/
theorem eq_filter_all {listed features : List Feature}
    (hsorted : listed.Pairwise (compare · · = .lt)) (hmem : ∀ f, f ∈ listed ↔ f ∈ features) :
    listed = all.filter (· ∈ features) := by
  have hall : (all.filter (· ∈ features)).Pairwise (compare · · = .lt) :=
    List.Pairwise.filter _ (by decide)
  have hnodup {l : List Feature} (h : l.Pairwise (compare · · = .lt)) : l.Nodup := by
    refine h.imp fun hlt heq => ?_
    subst heq
    simp at hlt
  refine List.Perm.eq_of_pairwise (fun a b _ _ hab hba => ?_) hsorted hall ?_
  · exact absurd hab (by simp [Std.OrientedCmp.gt_of_lt hba])
  · refine (List.perm_ext_iff_of_nodup (hnodup hsorted) (hnodup hall)).mpr fun f => ?_
    rw [hmem]
    cases f <;> simp [all]

end Feature

end Periscope
