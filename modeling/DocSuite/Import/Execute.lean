import DocSuite.Import.Loading

/-!
Running the imports of a program. Modules come from the package around the document, once it is
loaded, or from what is installed. Main statement: an import of a module that is neither raises an
exception that names it.
-/
namespace DocSuite

open DocSuite.Syntax DocSuite.Text

/-- What can be imported without loading it from the files of a document. Packages hold the modules
whose names go on from theirs. -/
def installedModules : List String :=
  [futureName, "asyncio", "json", "json.decoder", "json.encoder", "json.scanner", "json.tool",
    "mddoctest", "mddoctest.runtime", "os", "os.path", "pytest", "sys"]

/-- Installed modules that are packages. -/
def installedPackages : List String := ["asyncio", "json", "mddoctest", "pytest"]

/-- What imports from the future can name. -/
def futureFeatures : List String :=
  ["nested_scopes", "generators", "division", "absolute_import", "with_statement",
    "print_function", "unicode_literals", "barry_as_FLUFL", "generator_stop", "annotations"]

/-- What is wrong with an import from the future, told with the place of the statement. -/
def futureFault? (file : String) (line : Nat) (stmt : Stmt) : Option Raised :=
  match stmt with
  | .simple _ (.importFrom _ names _) =>
      match names.find? fun a => !futureFeatures.contains a.name with
      | some a =>
          let reason := if a.name = "braces" then "not a chance"
            else s!"future feature {a.name} is not defined"
          some { className := "SyntaxError", message := s!"{reason} ({file}, line {line})" }
      | none => none
  | _ => none

/-- What is wrong with the first of some imports from the future that is not right. -/
def futureFaults? (file : String) (line : Nat) : List Stmt → Option Raised
  | [] => none
  | stmt :: rest => (futureFault? file line stmt).or (futureFaults? file (line + 1) rest)

namespace LoadedModules

def importError (message : String) : Raised := { className := "ImportError", message }

/-- Imports a module that is installed. -/
def importInstalled (name : String) : Except Raised Unit :=
  if installedModules.contains name then .ok ()
  else
    let parts := (splitAt '.' name.toList).map String.ofList
    let known := ((List.range parts.length).map fun n => ".".intercalate (parts.take (n + 1))).find?
      fun outer => !installedModules.contains outer
    let first := known.getD name
    let outer := ".".intercalate (parts.take ((splitAt '.' first.toList).length - 1))
    let reason := if outer.isEmpty || installedPackages.contains outer then ""
      else s!"; {quoted outer} is not a package"
    .error (missing s!"No module named {quoted first}{reason}")

/-- Imports a module by its full name. Nothing is known of the content of installed modules. -/
def importModule (tree : FileTree) (modules : LoadedModules) (name : String) :
    LoadedModules × Except Raised (Option LoadedModule) :=
  let parts := (splitAt '.' name.toList).map String.ofList
  match modules.get? (parts.headD "") with
  | some top =>
      let (modules, result) := modules.importBelow tree top (parts.drop 1)
      (modules, result.map some)
  | none => (modules, (importInstalled name).map fun () => none)

/-- Imports modules one after the other. -/
def importAll (tree : FileTree) (modules : LoadedModules) :
    List String → LoadedModules × Except Raised Unit
  | [] => (modules, .ok ())
  | name :: names =>
      let (modules, result) := modules.importModule tree name
      match result with
      | .error raised => (modules, .error raised)
      | .ok _ => importAll tree modules names

/-- Gets names from a module: names that it sets, or modules below it. -/
def importNames (tree : FileTree) (modules : LoadedModules) (module : LoadedModule) :
    List Alias → LoadedModules × Except Raised Unit
  | [] => (modules, .ok ())
  | a :: rest =>
      if a.name = "*" || (module.names.lookup a.name).isSome then
        importNames tree modules module rest
      else
        let (modules, result) := modules.importBelow tree module [a.name]
        match result with
        | .ok _ => importNames tree modules module rest
        | .error raised =>
            if raised.className = "ModuleNotFoundError" then
              let place := match module.file with
                | some file => file.text
                | none => "unknown location"
              (modules, .error (importError
                s!"cannot import name {quoted a.name} from {quoted module.name} ({place})"))
            else (modules, .error raised)

/-- Runs an import. -/
def runImport (tree : FileTree) (modules : LoadedModules) (stmt : Stmt) :
    LoadedModules × Except Raised Unit :=
  match stmt with
  | .simple _ (.importModules names) => modules.importAll tree (names.map Alias.name)
  | .simple _ (.importFrom (some source) names 0) =>
      let (modules, result) := modules.importModule tree source
      match result with
      | .error raised => (modules, .error raised)
      | .ok none => (modules, .ok ())
      | .ok (some module) => modules.importNames tree module names
  | .simple _ (.importFrom ..) =>
      (modules, .error (importError "attempted relative import with no known parent package"))
  | _ => (modules, .ok ())

/-- Loads modules from their locations, one after the other. -/
def loadAll (tree : FileTree) (file : String) (modules : LoadedModules) :
    List Load → LoadedModules × Except Raised Unit
  | [] => (modules, .ok ())
  | first :: rest =>
      let (modules, result) := modules.load tree first file
      match result with
      | .error raised => (modules, .error raised)
      | .ok _ => loadAll tree file modules rest

/-- Runs imports, each behind the loads that it needs. -/
def runImports (tree : FileTree) (file : String) (modules : LoadedModules) :
    List (List Load × Stmt) → LoadedModules × Except Raised Unit
  | [] => (modules, .ok ())
  | (loads, stmt) :: rest =>
      let (modules, result) := modules.loadAll tree file loads
      match result with
      | .error raised => (modules, .error raised)
      | .ok () =>
          let (modules, result) := modules.runImport tree stmt
          match result with
          | .error raised => (modules, .error raised)
          | .ok () => runImports tree file modules rest

end LoadedModules

end DocSuite
