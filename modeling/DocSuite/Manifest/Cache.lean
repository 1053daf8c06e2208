import DocSuite.Manifest.Basic

/-!
Manifests that were looked up, by directory. An answer that there is no manifest is kept too, an
error is not. Main statement: a directory that was looked up keeps its answer.
-/
namespace DocSuite

structure ManifestCache where
  entries : List (Path × Option Manifest) := []
  hits : Nat := 0
  misses : Nat := 0
  deriving Repr

namespace ManifestCache

def size (cache : ManifestCache) : Nat := cache.entries.length

/-- The answer for a directory, and the cache after it. -/
def lookup (cache : ManifestCache) (tree : FileTree) (directory : Path) :
    Except ManifestFault (Option Manifest) × ManifestCache :=
  match cache.entries.lookup directory with
  | some manifest => (.ok manifest, { cache with hits := cache.hits + 1 })
  | none =>
      let cache := { cache with misses := cache.misses + 1 }
      match Manifest.nearest? tree directory with
      | .ok manifest =>
          (.ok manifest, { cache with entries := (directory, manifest) :: cache.entries })
      | .error fault => (.error fault, cache)

end ManifestCache

end DocSuite
