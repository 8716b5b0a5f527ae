import Periscope.IoError
import Periscope.Text.Path

/-!
# A tree of files

A place in the tree is a list of names from the root. Every place above a file or a
directory is a directory. Paths are looked up name by name, so that the first name that
cannot be followed decides the error.
-/

namespace Periscope

/-- A place in a tree, as names from the root. -/
abbrev Place := List String

/-- The names that a path goes through. -/
def Place.names (path : String) : Place := (pathNames path.toList).map String.ofList

/-- What is at a place. -/
inductive FileNode where
  /-- A file with its content. -/
  | file (bytes : ByteArray)
  /-- A directory. -/
  | directory

/-- A tree of files. The root is always a directory. -/
structure FileTree where
  /-- The files and directories by place, each place once. -/
  nodes : List (Place × FileNode) := []

/-- A change of a tree. -/
inductive FileEdit where
  /-- Writes a file, with the directories above it. -/
  | write (path : String) (bytes : ByteArray)
  /-- Makes a directory and those above it. -/
  | makeDirectory (path : String)
  /-- Removes what is there, with everything below it. -/
  | remove (path : String)

/-- The place that a path leads to from a directory, whether or not anything is there. -/
def placeFrom (directory : Place) (path : String) : Place :=
  (Place.names path).foldl
    (fun place name =>
      if name = "." then place else if name = ".." then place.dropLast else place ++ [name])
    (if isAbsolute path.toList then [] else directory)

namespace FileTree

/-- What is at a place. -/
def node? (tree : FileTree) (place : Place) : Option FileNode :=
  if place = [] then some .directory
  else (tree.nodes.find? (·.1 = place)).map Prod.snd

/-- Removes a place and everything below it. -/
def remove (tree : FileTree) (place : Place) : FileTree :=
  ⟨tree.nodes.filter fun entry => ¬ place.isPrefixOf entry.1⟩

/-- The places above a place, the root left out. -/
def above (place : Place) : List Place :=
  (List.range place.length).tail.map fun n => place.take n

/-- Makes directories of the given places, where there are none. -/
def addDirectories (tree : FileTree) (places : List Place) : FileTree :=
  places.foldl
    (fun tree place =>
      match tree.node? place with
      | some .directory => tree
      | _ => ⟨(tree.remove place).nodes ++ [(place, .directory)]⟩)
    tree

/-- Makes a directory and all those above it. -/
def makeDirectory (tree : FileTree) (place : Place) : FileTree :=
  tree.addDirectories (above place ++ [place])

/-- Writes a file and makes the directories above it. -/
def writeFile (tree : FileTree) (place : Place) (bytes : ByteArray) : FileTree :=
  let tree := (tree.remove place).addDirectories (above place)
  ⟨tree.nodes ++ [(place, .file bytes)]⟩

/-- Applies a change, with paths from a directory. -/
def edit (tree : FileTree) (directory : Place) : FileEdit → FileTree
  | .write path bytes => tree.writeFile (placeFrom directory path) bytes
  | .makeDirectory path => tree.makeDirectory (placeFrom directory path)
  | .remove path => tree.remove (placeFrom directory path)

/-- The greatest size of a name in bytes. -/
def maxNameBytes : Nat := 255

/-- The least size of a path in bytes that is too long. -/
def pathLimitBytes : Nat := 4096

/-- Follows names from a place. -/
def follow (tree : FileTree) : Place → List String → Except IoError Place
  | place, [] => .ok place
  | place, name :: rest =>
    match tree.node? place with
    | some .directory =>
      if name = "." then follow tree place rest
      else if name = ".." then follow tree place.dropLast rest
      else if maxNameBytes < name.utf8ByteSize then .error .nameTooLong
      else
        match tree.node? (place ++ [name]) with
        | some _ => follow tree (place ++ [name]) rest
        | none => .error .noEntry
    | some (.file _) => .error .notDirectory
    | none => .error .noEntry

/-- Finds what a path leads to from a directory. A slash at the end asks for a
directory. -/
def find (tree : FileTree) (directory : Place) (path : String) :
    Except IoError (Place × FileNode) := do
  let chars := path.toList
  if '\x00' ∈ chars then throw .nulInPath
  if chars = [] then throw .noEntry
  if pathLimitBytes ≤ path.utf8ByteSize then throw .nameTooLong
  let place ← tree.follow (if isAbsolute chars then [] else directory) (Place.names path)
  match tree.node? place with
  | none => throw .noEntry
  | some (.file bytes) =>
    if chars.getLast? = some '/' then throw .notDirectory else return (place, .file bytes)
  | some .directory => return (place, .directory)

/-- Reads a file as a text. -/
def readText (tree : FileTree) (directory : Place) (path : String) : Except IoError String := do
  match ← tree.find directory path with
  | (_, .directory) => throw .isDirectory
  | (_, .file bytes) =>
    match String.fromUTF8? bytes with
    | some text => return text
    | none => throw .notText

/-- The names in a directory. -/
def names (tree : FileTree) (place : Place) : List String :=
  tree.nodes.filterMap fun entry =>
    if entry.1.length = place.length + 1 ∧ place.isPrefixOf entry.1 then entry.1.getLast? else none

/-- Lists a directory. -/
def list (tree : FileTree) (directory : Place) (path : String) : Except IoError (List String) := do
  match ← tree.find directory path with
  | (place, .directory) => return tree.names place
  | (_, .file _) => throw .notDirectory

end FileTree

end Periscope
