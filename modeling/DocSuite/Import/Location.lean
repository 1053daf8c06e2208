import DocSuite.Manifest.Cache

/-!
Where the modules of the package around a document are. A document that imports the package in
whose directory it lies means the files that lie there. Main statement: modules of other packages
have no location.
-/
namespace DocSuite

/-- The files that a document means when it imports modules of its own package. -/
structure Checkout where
  tree : FileTree
  /-- The file of the document; without it nothing is known of its package. -/
  document : Option String
  /-- The file from which locations are told; the document itself by default. -/
  anchor : Option String := none

namespace Checkout

/-- The directory of a file. -/
def directoryOf (checkout : Checkout) (file : String) : Path :=
  (Path.absolute checkout.tree.working file).parent

/-- The names of the modules below a package that lead to a module of it. -/
def modulesBelow? (package module : String) : Option String :=
  let start := package.toList ++ ['.']
  if start.isPrefixOf module.toList then
    some (String.ofList ((module.toList.drop start.length).map fun c => if c = '.' then '/' else c))
  else none

/-- The location of a module in the package of a manifest, told from a directory. -/
def locationIn? (manifest : Manifest) (start : Path) (module : String) : Option String :=
  let base := (Path.relative manifest.directory start).text
  if module = manifest.importName then some base
  else (modulesBelow? manifest.importName module).map fun below => base ++ "/" ++ below

/-- The location of a module, if it belongs to the package of the document. -/
def location? (checkout : Checkout) (cache : ManifestCache) (module : String) :
    Except ManifestFault (Option String) × ManifestCache :=
  match checkout.document with
  | none => (.ok none, cache)
  | some document =>
      let directory := checkout.directoryOf document
      let (answer, cache) := cache.lookup checkout.tree directory
      let start := match checkout.anchor with
        | some anchor => checkout.directoryOf anchor
        | none => directory
      (answer.map fun manifest => manifest.bind fun manifest => locationIn? manifest start module,
        cache)

end Checkout

end DocSuite
