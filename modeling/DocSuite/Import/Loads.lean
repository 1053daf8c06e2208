import DocSuite.Check.Basic
import DocSuite.Import.Location

/-!
Loading modules of the package around a document before they are imported. The imports stay as they
are written. Main statement: without the loads, the statements are the imports.
-/
namespace DocSuite

open DocSuite.Syntax

/-- Imports from this module are no imports: they say how a module is read. -/
def futureName : String := "__future__"

/-- The modules that an import names from the top. -/
def Syntax.Stmt.importedModules : Stmt → List String
  | .simple _ (.importModules names) => names.map Alias.name
  | .simple _ (.importFrom (some source) _ 0) => if source = futureName then [] else [source]
  | _ => []

namespace Check

/-- The call that loads a module from a location. -/
def load (module location : String) : Stmt :=
  .simple {} (.expr (supportCall "load_local"
    [textExpr module, textExpr location, nameExpr "__file__"]))

end Check

/-- A module of the package around a document that is loaded from its location. -/
structure Load where
  module : String
  location : String
  deriving DecidableEq, Repr

namespace Load

def statement (load : Load) : Stmt := Check.load load.module load.location

end Load

/-- What the modules of an import need. -/
structure Needed where
  loads : List Load := []
  /-- Every module that was located, loaded or not. -/
  located : List Load := []
  cache : ManifestCache

/-- The loads for some modules, of which some may be loaded. A module whose location reads like its
name is not loaded. -/
def Needed.ofModules (checkout : Checkout) (cache : ManifestCache) (loaded : List Load) :
    List String → Except ManifestFault Needed
  | [] => .ok { cache }
  | module :: modules =>
      if loaded.any fun load => load.module == module then
        ofModules checkout cache loaded modules
      else do
        let (answer, cache) := checkout.location? cache module
        match (← answer) with
        | none => ofModules checkout cache loaded modules
        | some location =>
            let load := ⟨module, location⟩
            if location = module then
              let rest ← ofModules checkout cache loaded modules
              return { rest with located := load :: rest.located }
            else
              let rest ← ofModules checkout cache (load :: loaded) modules
              return { rest with loads := load :: rest.loads, located := load :: rest.located }

/-- Imports, each behind the loads that it needs and that no import before it needed. -/
structure Loaded where
  imports : List (List Load × Stmt) := []
  located : List Load := []
  cache : ManifestCache := {}

namespace Loaded

def loads (loaded : Loaded) : List Load := loaded.imports.flatMap Prod.fst

def statements (loaded : Loaded) : List Stmt :=
  loaded.imports.flatMap fun (loads, stmt) => loads.map Load.statement ++ [stmt]

/-- Adds an import behind the others. -/
def add (checkout : Checkout) (loaded : Loaded) (stmt : Stmt) : Except ManifestFault Loaded := do
  let needed ← Needed.ofModules checkout loaded.cache loaded.loads stmt.importedModules
  return {
    imports := loaded.imports ++ [(needed.loads, stmt)]
    located := loaded.located ++ needed.located
    cache := needed.cache }

def ofImports (checkout : Checkout) (cache : ManifestCache) (imports : List Stmt) :
    Except ManifestFault Loaded :=
  imports.foldlM (add checkout) { cache }

end Loaded

end DocSuite
