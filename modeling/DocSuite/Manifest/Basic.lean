import DocSuite.FileTree
import DocSuite.Report
import DocSuite.Text.Case
import DocSuite.Toml.Read

/-!
Manifests: the files in which packages declare their names. The manifest of a document is the one
in the nearest directory, at or above that of the document, which has such a file. Main statement:
manifests further up are not read.
-/
namespace DocSuite

open DocSuite.Text

/-- The declared name of a package and the file that declares it. -/
structure Manifest where
  name : String
  path : Path
  deriving DecidableEq, Repr

/-- Why a manifest cannot be used. -/
inductive ManifestFault
  /-- The file cannot be read, or is not well-formed. -/
  | refused (report : Report)
  | encoding (fault : Utf8.Fault)
  | longInteger (message : String)
  /-- There is a value of another kind where a table is expected. -/
  | noTable (value : Toml.Value)
  deriving Repr

namespace Manifest

def fileName : String := "pyproject.toml"

/-- Marks between the words of a package name. -/
def isSeparator (c : Char) : Bool := c == '-' || c == '_' || c == '.'

/-- One underscore for each run of separators. -/
def joinSeparators : (inRun : Bool) → List Char → List Char
  | _, [] => []
  | inRun, c :: cs =>
      if isSeparator c then
        if inRun then joinSeparators true cs else '_' :: joinSeparators true cs
      else c :: joinSeparators false cs

/-- The name under which a package is imported. -/
def importNameOf (name : String) : String :=
  String.ofList (lower (joinSeparators false name.toList))

/-- The directory of the package. -/
def directory (manifest : Manifest) : Path := manifest.path.parent

def importName (manifest : Manifest) : String := importNameOf manifest.name

/-- The table behind a key; without the key, an empty one. -/
def tableAt (key : String) (table : Toml.Table) : Except ManifestFault Toml.Table :=
  match table.get? key with
  | none => .ok []
  | some (.table inner) => .ok inner
  | some value => .error (.noTable value)

/-- The package name that a table declares, if it is a text. -/
def textAt? (key : String) (table : Toml.Table) : Option String :=
  match table.get? key with
  | some (.text name) => some name
  | _ => none

/-- The name that a manifest declares, in one of two places. -/
def nameIn? (table : Toml.Table) : Except ManifestFault (Option String) := do
  let project ← tableAt "project" table
  let name ← match textAt? "name" project with
    | some name => pure (some name)
    | none => (textAt? "name" ·) <$> (tableAt "tool" table >>= tableAt "poetry")
  return name.filter fun name => !name.isEmpty

/-- The report of a manifest that is there but cannot be read. -/
def refusal (path : Path) (cause : String) : Report :=
  Report.manifest s!"Cannot read package manifest {path.text}: {cause}" (some path.text)
    { suggestions := ["Fix or remove the broken pyproject.toml"], cause := some cause }

/-- The manifest in the text of a file; nothing if it declares no name. -/
def ofText? (path : Path) (text : List Char) : Except ManifestFault (Option Manifest) :=
  match Toml.read text with
  | .ok table => (fun name => name.map (⟨·, path⟩)) <$> nameIn? table
  | .error fault =>
      let message := fault.message text
      match fault with
      | .malformed .. => .error (.refused (refusal path message))
      | .longInteger _ => .error (.longInteger message)

/-- The manifest in a file; nothing if it declares no name. -/
def read? (tree : FileTree) (path : Path) : Except ManifestFault (Option Manifest) :=
  match tree.read path with
  | .error fault => .error (.refused (refusal path fault.message))
  | .ok bytes =>
      match Utf8.decode bytes with
      | .error fault => .error (.encoding fault)
      | .ok text => ofText? path text

/-- The manifest file in the nearest of some directories that has one. -/
def nearestFile? (tree : FileTree) (directories : List Path) : Option Path :=
  (directories.map fun directory => directory.child fileName).find? tree.isFile

/-- The manifest for a directory. -/
def nearest? (tree : FileTree) (directory : Path) : Except ManifestFault (Option Manifest) :=
  match nearestFile? tree directory.withParents with
  | some path => read? tree path
  | none => .ok none

end Manifest

end DocSuite
