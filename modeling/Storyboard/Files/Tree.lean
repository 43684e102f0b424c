import Storyboard.Files.Path
import Storyboard.Files.System

/-!
# A directory by itself

The plainest file system knows what lies below the current directory, and there is nothing else.  A
path is walked name by name from the current directory, or from elsewhere if it starts with a slash.
Every name before the last must be that of a directory, also if two dots follow it.

`Tree.file` says which file a path leads to, and `Tree.target` where a file can be written.
-/

namespace Storyboard

inductive Entry where
  | directory | file
deriving DecidableEq, Repr

/-- What lies below the current directory, by the names that lead there. -/
abbrev Tree := List (List Char) → Option Entry

inductive Place where
  | below (names : List (List Char))
  /-- Not below the current directory. -/
  | outside
deriving DecidableEq, Repr

/-! ## What is in the way -/

namespace Refusal

def missing : Refusal := ⟨2, "No such file or directory"⟩
def notADirectory : Refusal := ⟨20, "Not a directory"⟩
def isADirectory : Refusal := ⟨21, "Is a directory"⟩
def nameTooLong : Refusal := ⟨36, "File name too long"⟩

end Refusal

/-! ## Steps of a walk -/

namespace Place

/-- The name of the directory that holds a directory. -/
def parentName : List Char := ['.', '.']

def move (place : Place) (name : List Char) : Place :=
  match place with
  | .outside => .outside
  | .below names =>
      if name ≠ parentName then .below (names ++ [name])
      else if names.isEmpty then .outside
      else .below names.dropLast

def start (path : String) : Place :=
  if (Path.rootSlashes path).isEmpty then .below [] else .outside

/-- Where a path leads if nothing is in the way. -/
def ofPath (path : String) : Place :=
  (Path.names path).foldl move (start path)

end Place

namespace Tree

def maxNameBytes : Nat := 255
def maxPathBytes : Nat := 4095

def isLong (name : List Char) : Bool :=
  maxNameBytes < (String.ofList name).utf8ByteSize

def entry? (tree : Tree) (place : Place) (name : List Char) : Option Entry :=
  match place with
  | .below names => tree (names ++ [name])
  | .outside => none

def enter (tree : Tree) (place : Place) (name : List Char) : Except Refusal Place :=
  if name = Place.parentName then .ok (place.move name)
  else if isLong name then .error .nameTooLong
  else
    match tree.entry? place name with
    | some .directory => .ok (place.move name)
    | some .file => .error .notADirectory
    | none => .error .missing

def walk (tree : Tree) (place : Place) : List (List Char) → Except Refusal Place
  | [] => .ok place
  | name :: names => do tree.walk (← tree.enter place name) names

def file (tree : Tree) (path : String) : Except Refusal Place := do
  if maxPathBytes < path.utf8ByteSize then throw .nameTooLong
  let place ← tree.walk (.start path) (Path.names path).dropLast
  let name := Path.lastName path
  if name = [] ∨ name = Place.parentName then throw .isADirectory
  if isLong name then throw .nameTooLong
  match tree.entry? place name with
  | some .file => return place.move name
  | some .directory => throw .isADirectory
  | none => throw .missing

/-- The place at which a path allows a file to be written. -/
def target (tree : Tree) (path : String) : Except Refusal Place := do
  if maxPathBytes < path.utf8ByteSize then throw .nameTooLong
  let pieces := Text.splitOn '/' path.toList
  let names := pieces.filter (· ≠ [])
  let place ← tree.walk (.start path) (names.dropLast.filter (· ≠ ['.']))
  let name := names.getLastD ['.']
  if pieces.getLast? = some [] ∨ name = ['.'] ∨ name = Place.parentName then throw .isADirectory
  if isLong name then throw .nameTooLong
  if tree.entry? place name = some .directory then throw .isADirectory
  return place.move name

/-! ## The answers -/

/-- A path that is too long is worse than one that leads nowhere. -/
def isFile (tree : Tree) (path : String) : Except Refusal Bool :=
  match tree.file path with
  | .ok _ => .ok true
  | .error refusal => if refusal = .nameTooLong then .error refusal else .ok false

def refusal? (tree : Tree) (path : String) : Option Refusal :=
  match tree.target path with
  | .ok _ => none
  | .error refusal => some refusal

def files (tree : Tree) : FileSystem := ⟨tree.isFile, tree.refusal?⟩

end Tree

def FileSystem.empty : FileSystem := Tree.files fun _ => none

end Storyboard
