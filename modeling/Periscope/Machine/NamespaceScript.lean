import Periscope.Namespace.Handle
import Periscope.IoError

/-!
# Scripted failures of namespace requests

A script lists which requests fail and with what error. The first line that fits a
request counts, and a line may hold for a number of times only.
-/

namespace Periscope

/-- A kind of request about a namespace. -/
inductive NamespaceRequest where
  /-- To open a namespace. -/
  | opening
  /-- To enter one. -/
  | entering
  /-- To close a handle. -/
  | closing
  deriving Repr, DecidableEq

/-- A line of a script: the requests that fit it fail. -/
structure ScriptedFailure where
  /-- What is requested. -/
  request : NamespaceRequest
  /-- Whether it is about a namespace of the caller. -/
  ofHost : Bool
  /-- The kind of the namespace. -/
  kind : NamespaceKind
  /-- The error of the request. -/
  cause : IoError
  /-- How many requests may still fail; without a number, all. -/
  times : Option Nat := none
  deriving Repr, DecidableEq

/-- A script of failures. -/
abbrev NamespaceScript := List ScriptedFailure

namespace NamespaceScript

/-- Answers a request and uses up one of the times of the line that fits. -/
def answer (request : NamespaceRequest) (owner : Owner) (kind : NamespaceKind) :
    NamespaceScript → Option IoError × NamespaceScript
  | [] => (none, [])
  | line :: rest =>
    if line.request = request ∧ line.ofHost = decide (owner = .caller) ∧ line.kind = kind ∧
        line.times ≠ some 0 then
      (some line.cause, { line with times := line.times.map (· - 1) } :: rest)
    else
      let (failure, rest) := answer request owner kind rest
      (failure, line :: rest)

end NamespaceScript

end Periscope
