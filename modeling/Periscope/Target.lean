import Periscope.Json.Decoder
import Periscope.Misconfiguration

/-!
# Targets

A container is addressed by its id and by one process that runs in it. On the command
line both are joined by a colon; the id may have colons of its own, so the last one
counts.
-/

namespace Periscope

/-- A container to look at. -/
structure Target where
  /-- The container's id, which names its accounting files and its latest sample. -/
  containerId : String
  /-- A process of the container, through which its namespaces are reached. -/
  pid : Int32
  deriving Repr, DecidableEq

namespace Target

/-- Splits at the last occurrence of a separator. -/
def splitLast (separator : Char) (s : List Char) : Option (List Char × List Char) :=
  let behind := (s.reverse.takeWhile (· ≠ separator)).reverse
  match s.reverse.dropWhile (· ≠ separator) with
  | [] => none
  | _ :: before => some (before.reverse, behind)

/-- Reads `<container id>:<pid>`. -/
def parse (s : String) : Except Misconfiguration Target :=
  match splitLast ':' s.toList with
  | none => .error (.targetWithoutPid s)
  | some (id, pid) =>
    if id = [] then .error (.targetWithoutId s)
    else
      match Text.readInt32 (String.ofList pid) with
      | .ok pid => .ok ⟨String.ofList id, pid⟩
      | .error cause => .error (.targetPid s cause)

/-- A target as JSON. -/
def toJson (target : Target) : Json :=
  .object [("container_id", .text target.containerId), ("pid", .integer target.pid.toInt)]

/-- The fields of a target that were read so far. -/
structure Draft where
  containerId : Option String := none
  pid : Option Int32 := none

/-- The fields of a target. -/
def fields : List (Json.Decoder.Field Draft) :=
  [.of "container_id" Json.Decoder.text Draft.containerId fun containerId draft =>
    { draft with containerId := some containerId },
   .of "pid" Json.Decoder.int32 Draft.pid fun pid draft => { draft with pid := some pid }]

/-- The target of a draft, if nothing is missing. -/
def ofDraft (draft : Draft) : Option Target := return ⟨← draft.containerId, ← draft.pid⟩

/-- A target from JSON. -/
def decoder : Json.Decoder Target := Json.Decoder.record fields {} ofDraft false

/-- The two parts of a split at the last separator make up the text, and the second one
has no separator. -/
theorem splitLast_eq_some {separator : Char} {s before behind : List Char}
    (h : splitLast separator s = some (before, behind)) :
    s = before ++ separator :: behind ∧ separator ∉ behind := by
  simp only [splitLast] at h
  split at h
  · simp at h
  · next c rest hdrop =>
    simp only [Option.some.injEq, Prod.mk.injEq] at h
    obtain ⟨rfl, rfl⟩ := h
    have hhead := List.head?_dropWhile_not (· ≠ separator) s.reverse
    rw [hdrop] at hhead
    have hc : c = separator := by simpa using hhead
    have hall : s.reverse = s.reverse.takeWhile (· ≠ separator) ++ c :: rest := by
      rw [← hdrop, List.takeWhile_append_dropWhile]
    refine ⟨?_, ?_⟩
    · have := congrArg List.reverse hall
      simpa [hc] using this
    · intro hmem
      have := List.all_eq_true.1 List.all_takeWhile _ (List.mem_reverse.1 hmem)
      simp at this

end Target

end Periscope
