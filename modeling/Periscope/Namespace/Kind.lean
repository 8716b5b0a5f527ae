import Periscope.Json.Decoder
import Periscope.Misconfiguration
import Periscope.Text.Blank

/-!
# Kinds of namespaces

A process has one namespace of each kind. The order of the kinds is the order in which
they are joined: the mount namespace comes last, since every path means something else
behind it. It is also the only kind that may not be left out.
-/

namespace Periscope

/-- What a namespace isolates. -/
inductive NamespaceKind where
  /-- Users and groups. -/
  | user
  /-- Process numbers. -/
  | pid
  /-- The name of the host. -/
  | uts
  /-- Queues and shared memory. -/
  | ipc
  /-- The network. -/
  | net
  /-- The tree of files. -/
  | mnt
  deriving Repr, DecidableEq, Inhabited

namespace NamespaceKind

/-- Every kind, in joining order. -/
def all : List NamespaceKind := [.user, .pid, .uts, .ipc, .net, .mnt]

/-- The place of a kind in joining order. -/
def rank : NamespaceKind → Nat
  | .user => 0
  | .pid => 1
  | .uts => 2
  | .ipc => 3
  | .net => 4
  | .mnt => 5

instance : Ord NamespaceKind := ⟨fun a b => compare a.rank b.rank⟩

/-- The name of a kind, which is also that of its file. -/
def name : NamespaceKind → String
  | .user => "user"
  | .pid => "pid"
  | .uts => "uts"
  | .ipc => "ipc"
  | .net => "net"
  | .mnt => "mnt"

/-- The kind with exactly this name. -/
def ofName? (name : String) : Option NamespaceKind := all.find? (·.name = name)

/-- Whether a call is given up when this kind cannot be joined. -/
def isMandatory (kind : NamespaceKind) : Bool := kind = .mnt

/-- The bit that asks the system for a new namespace of this kind. -/
def cloneFlag : NamespaceKind → Nat
  | .user => 0x10000000
  | .pid => 0x20000000
  | .uts => 0x04000000
  | .ipc => 0x08000000
  | .net => 0x40000000
  | .mnt => 0x00020000

/-- Reads a kind from a word with blanks around it; `mount` is a second name of `mnt`. -/
def parse (s : String) : Except Misconfiguration NamespaceKind :=
  let word := Text.trim s
  if word = "mount" then .ok .mnt
  else
    match ofName? word with
    | some kind => .ok kind
    | none => .error (.unknownNamespace word)

/-- The requested kinds in joining order, each once. -/
def joiningOrder (requested : List NamespaceKind) : List NamespaceKind :=
  all.filter (· ∈ requested)

/-- A kind as JSON. -/
def toJson (kind : NamespaceKind) : Json := .text kind.name

/-- A kind from JSON. -/
def decoder : Json.Decoder NamespaceKind := Json.Decoder.enumeration ofName?

/-- Just the requested kinds are joined. -/
theorem mem_joiningOrder (kind : NamespaceKind) (requested : List NamespaceKind) :
    kind ∈ joiningOrder requested ↔ kind ∈ requested := by
  cases kind <;> simp [joiningOrder, all]

/-- The kinds are joined by increasing rank, so none is joined twice. -/
theorem joiningOrder_pairwise (requested : List NamespaceKind) :
    (joiningOrder requested).Pairwise (fun a b => a.rank < b.rank) :=
  List.Pairwise.filter _ (by decide)

/-- Kinds are told apart by their ranks. -/
theorem eq_of_rank_eq {a b : NamespaceKind} (h : a.rank = b.rank) : a = b := by
  cases a <;> cases b <;> first | rfl | exact absurd h (by decide)

/-- The mount namespace is the last to be joined. -/
theorem rank_le_mnt (a : NamespaceKind) : a.rank ≤ NamespaceKind.mnt.rank := by
  cases a <;> decide

/-- The mount namespace alone is mandatory. -/
@[simp] theorem isMandatory_iff {a : NamespaceKind} : a.isMandatory = true ↔ a = .mnt := by
  simp [isMandatory]

theorem compare_eq_gt {a b : NamespaceKind} : compare a b = .gt ↔ b.rank < a.rank :=
  Nat.compare_eq_gt

instance : Std.LawfulEqOrd NamespaceKind where
  compare_self := Nat.compare_eq_eq.mpr rfl
  eq_of_compare h := eq_of_rank_eq (Nat.compare_eq_eq.mp h)

end NamespaceKind

end Periscope
