/-!
# Paths

A path is a text. Joining writes one slash between the base and the rest, and an
absolute path takes the place of its base. Two paths agree if they have the same parts,
however many slashes and dots stand between them.
-/

namespace Periscope

/-- Whether a path starts at the root directory. -/
def isAbsolute (path : List Char) : Bool :=
  path.head? = some '/'

/-- Appends a path to a base directory. The empty base adds no slash, and a base that
ends with a slash adds none of its own. -/
def joinChars (base path : List Char) : List Char :=
  if isAbsolute path then path
  else if base = [] ∨ base.getLast? = some '/' then base ++ path
  else base ++ '/' :: path

/-- `joinChars` on strings. -/
def joinPath (base path : String) : String :=
  String.ofList (joinChars base.toList path.toList)

/-- Appends several paths to a base, from left to right. -/
def joinPaths (base : String) (paths : List String) : String :=
  paths.foldl joinPath base

/-- The names in a path. Slashes in a row count as one, and one at the end says nothing. -/
def pathNames (path : List Char) : List (List Char) :=
  (path.splitOnP (· = '/')).filter (· ≠ [])

/-- The names in a path without the dots that stay in place. Only a dot in front of a
relative path is kept, as it tells that the path starts here. -/
def pathParts (path : List Char) : List (List Char) :=
  match pathNames path with
  | [] => []
  | first :: rest =>
    if first = ['.'] ∧ ¬ isAbsolute path then first :: rest.filter (· ≠ ['.'])
    else (first :: rest).filter (· ≠ ['.'])

/-- Whether two paths lead to the same place because they have the same parts. -/
def samePath (a b : String) : Bool :=
  isAbsolute a.toList = isAbsolute b.toList && pathParts a.toList = pathParts b.toList

/-- An absolute path forgets the base. -/
theorem joinChars_absolute (base path : List Char) (h : isAbsolute path = true) :
    joinChars base path = path := by
  simp [joinChars, h]

end Periscope
