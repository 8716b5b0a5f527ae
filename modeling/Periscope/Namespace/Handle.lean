import Periscope.Namespace.Kind
import Periscope.Text.Path

/-!
# Handles of namespaces

A handle keeps a namespace of a process open. Each opening makes a handle of its own,
so handles have numbers.
-/

namespace Periscope

/-- Whose namespace is meant: that of the calling process or of another one. -/
inductive Owner where
  /-- The calling process itself. -/
  | caller
  /-- The process with this number. -/
  | process (pid : Int32)
  deriving Repr, DecidableEq

/-- The name of an owner in the process directory. -/
def Owner.name : Owner → String
  | .caller => "self"
  | .process pid => toString pid

/-- An open namespace. -/
structure Handle where
  /-- The number that tells this opening from all others. -/
  id : Nat
  /-- Whose namespace was opened. -/
  owner : Owner
  /-- The kind of the namespace. -/
  kind : NamespaceKind
  deriving Repr, DecidableEq

/-- The file of a namespace below the root of the process directory. -/
def namespacePath (root : String) (owner : Owner) (kind : NamespaceKind) : String :=
  joinPaths root [owner.name, "ns", kind.name]

end Periscope
