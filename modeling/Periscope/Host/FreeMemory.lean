import Periscope.Cgroup.KeyedFile
import Periscope.Panic
import Periscope.Text.Path

/-!
# The host's free memory

The first line that starts with `MemFree:` and goes on with a number tells the free
memory in kibibytes.
-/

namespace Periscope

/-- The file of the host's memory figures. -/
def hostMemoryPath (root : String) : String := joinPath root "meminfo"

/-- The rest of a text behind a prefix. -/
def dropPrefix? : List Char → List Char → Option (List Char)
  | [], s => some s
  | _ :: _, [] => none
  | c :: front, d :: s => if c = d then dropPrefix? front s else none

/-- The number of kibibytes in a line, if it tells the free memory. -/
def freeKibibytes (line : List Char) : Option UInt64 := do
  let rest ← dropPrefix? "MemFree:".toList line
  let word ← (fieldsOf rest).head?
  match Text.readWord (String.ofList word) with
  | .ok n => some n
  | .error _ => none

/-- The free memory in bytes. The text of the file, or the error in its place, is
given. -/
def readFreeMemory (path : String) (content : Except IoError String) :
    Except Panic (Except IoError UInt64) :=
  match content with
  | .error e => .ok (.error e)
  | .ok content =>
    match (linesOf content.toList).findSome? freeKibibytes with
    | some kibibytes => (multiplyWords kibibytes 1024).map .ok
    | none => .ok (.error (AccountingFile.invalid path "missing MemFree"))

end Periscope
