import Storyboard.Text.Split

/-!
# Paths of files

A path is a list of names joined by slashes, where empty names and single dots do not count.  It is
written anew from those names, behind the slashes it starts with: two of them if there are exactly
two, otherwise one.  The suffix of its last name starts at the last dot, unless that is the first or
the last character.
-/

namespace Storyboard
namespace Path

def names (path : String) : List (List Char) :=
  (Text.splitOn '/' path.toList).filter fun name => name ≠ [] ∧ name ≠ ['.']

/-- The slashes that are kept at the start of a path. -/
def rootSlashes (path : String) : List Char :=
  match path.toList.takeWhile (· = '/') with
  | [] => []
  | ['/', '/'] => ['/', '/']
  | _ => ['/']

/-- A path written anew from its names; the current directory is a single dot. -/
def normal (path : String) : String :=
  match rootSlashes path, names path with
  | [], [] => "."
  | slashes, names => String.ofList (slashes ++ ['/'].intercalate names)

def lastName (path : String) : List Char :=
  (names path).getLastD []

/-- What stands before and after the last dot of a name. -/
def cutAtLastDot : List Char → Option (List Char × List Char)
  | [] => none
  | c :: rest =>
      match cutAtLastDot rest with
      | some (before, after) => some (c :: before, after)
      | none => if c = '.' then some ([], rest) else none

/-- A name cut into its stem and its suffix, which is empty or starts with a dot. -/
def splitSuffix (name : List Char) : List Char × List Char :=
  match cutAtLastDot name with
  | some (c :: before, d :: after) => (c :: before, '.' :: d :: after)
  | _ => (name, [])

def suffix (path : String) : List Char :=
  (splitSuffix (lastName path)).2

def stem (path : String) : List Char :=
  (splitSuffix (lastName path)).1

end Path
end Storyboard
