import DocSuite.Execution.Raised
import DocSuite.Import.Loads
import DocSuite.Syntax.Parser

/-!
Loading modules from the files around a document. A package is looked for below the root that its
location tells, in a few places; its modules are looked for below the package. Main statement: a
package that is loaded from the file that is found is not loaded again.
-/
namespace DocSuite

open DocSuite.Syntax DocSuite.Text

/-- A module that is loaded. -/
structure LoadedModule where
  name : String
  /-- Directories that hold modules but no file of their own are modules without a file. -/
  file : Option Path
  /-- Where the modules below it lie; only packages have some. -/
  directory : Option Path
  /-- The names that it sets, with the texts that it sets them to. -/
  names : List (String × Option String) := []
  deriving Repr

/-- The modules that are loaded. -/
abbrev LoadedModules := List LoadedModule

namespace LoadedModule

def named (name : String) (module : LoadedModule) : Bool := module.name == name

/-- The module is the top module of that name, or lies below it. -/
def isIn (top : String) (module : LoadedModule) : Bool :=
  module.name == top || (top ++ ".").toList.isPrefixOf module.name.toList

end LoadedModule

/-! ### The content of modules -/

/-- The text that a literal stands for. -/
def Syntax.Expr.text? (e : Expr) : Option String :=
  match e.form with
  | .literal (.text codes _) => some (String.ofList (codes.map Char.ofNat))
  | _ => none

/-- The exception that a statement raises which names its class. -/
def Syntax.Expr.raised? (e : Expr) : Option Raised :=
  match e.form with
  | .name className => some (Raised.ofClass className [])
  | .call ⟨_, .name className⟩ args [] =>
      (args.mapM Expr.text?).map fun args => Raised.ofClass className (args.map .text)
  | _ => none

/-- Runs statements that set names, or raise exceptions. Others have no effect. -/
def runNames (names : List (String × Option String)) :
    List Stmt → Except Raised (List (String × Option String))
  | [] => .ok names
  | .simple _ (.assign [⟨_, .name name⟩] value) :: rest =>
      runNames (setKey name value.text? names) rest
  | .compound _ (.function _ name _ _ _) _ :: rest => runNames (setKey name none names) rest
  | .compound _ (.classDef name ..) _ :: rest => runNames (setKey name none names) rest
  | .simple _ (.raise (some exception) _) :: rest =>
      match exception.raised? with
      | some raised => .error raised
      | none => runNames names rest
  | _ :: rest => runNames names rest

/-- Runs the text of a module. -/
def runModule (file : Path) (text : List Char) : Except Raised (List (String × Option String)) :=
  match parseText text with
  | .ok body => runNames [] body
  | .error fault =>
      .error { className := "SyntaxError"
               message := s!"{fault.fault.message} ({file.name}, line {fault.line})" }

/-- Runs the file of a module. -/
def runFile (tree : FileTree) (file : Path) : Except Raised (List (String × Option String)) :=
  match tree.readText file with
  | .ok text => runModule file text.toList
  | .error (.file fault) =>
      .error { className := Raised.systemClass fault.number, message := fault.message }
  | .error (.encoding fault) =>
      .error { className := "SyntaxError", message := fault.message }

/-! ### Finding files -/

def packageFile : String := "__init__.py"

def moduleFile (name : String) : String := name ++ ".py"

namespace Load

/-- The parts of the name of the module. -/
def parts (load : Load) : List String :=
  (splitAt '.' load.module.toList).map String.ofList

/-- The first part of the name: that of the package. -/
def top (load : Load) : String := load.parts.headD ""

/-- A path, so many steps up. -/
def above (path : Path) : Nat → Path
  | 0 => path
  | n + 1 => above path.parent n

/-- The directory below which the package is looked for, when the location is told from a file. -/
def root (working : Path) (load : Load) (anchor : String) : Path :=
  let base := (Path.absolute working anchor).parent
  above (base.inDirectory (Path.ofText load.location)).normal (load.parts.length - 1)

end Load

def Path.below (path : Path) (name : String) : Path :=
  if name.isEmpty then path else path.child name

/-- The file of a package below a root, and the directory of its modules. -/
def findPackage? (tree : FileTree) (root : Path) (top : String) : Option (Path × Option Path) :=
  let packages := [(root.child "src").below top, root.below top, root].map fun directory =>
    (directory.child packageFile, some directory)
  let modules := [root.child "src", root].map fun directory =>
    (directory.child (moduleFile top), none)
  (packages ++ modules).find? fun found => tree.isFile found.1

/-! ### Loading -/

namespace LoadedModules

def get? (modules : LoadedModules) (name : String) : Option LoadedModule :=
  modules.find? (LoadedModule.named name)

/-- Without a package and the modules below it. -/
def evict (modules : LoadedModules) (top : String) : LoadedModules :=
  modules.filter fun module => !module.isIn top

def missing (message : String) : Raised := { className := "ModuleNotFoundError", message }

/-- The file of a module below a package, and the directory of the modules below it. -/
def findBelow? (tree : FileTree) (directory : Path) (name : String) :
    Option (Option Path × Option Path) :=
  let inner := directory.child name
  if name.isEmpty then none
  else if tree.isFile (inner.child packageFile) then
    some (some (inner.child packageFile), some inner)
  else if tree.isFile (directory.child (moduleFile name)) then
    some (some (directory.child (moduleFile name)), none)
  else if tree.isDirectory inner then some (none, some inner)
  else none

/-- Loads the modules below a module whose names follow each other, and gives the last. -/
def importBelow (tree : FileTree) (modules : LoadedModules) (parent : LoadedModule) :
    List String → LoadedModules × Except Raised LoadedModule
  | [] => (modules, .ok parent)
  | part :: parts =>
      let name := parent.name ++ "." ++ part
      match modules.get? name with
      | some module => importBelow tree modules module parts
      | none =>
          match parent.directory with
          | none =>
              (modules, .error (missing
                s!"No module named {quoted name}; {quoted parent.name} is not a package"))
          | some directory =>
              match findBelow? tree directory part with
              | none => (modules, .error (missing s!"No module named {quoted name}"))
              | some (file, directory) =>
                  let run := match file with
                    | some file => runFile tree file
                    | none => .ok []
                  match run with
                  | .error raised => (modules, .error raised)
                  | .ok names =>
                      let module : LoadedModule := { name, file, directory, names }
                      importBelow tree (modules ++ [module]) module parts

/-- Loads the top module of a package from a file, unless it is loaded from that file. -/
def loadTop (tree : FileTree) (modules : LoadedModules) (top : String) (file : Path)
    (directory : Option Path) : LoadedModules × Except Raised LoadedModule :=
  match (modules.get? top).filter fun module => module.file == some file with
  | some module => (modules, .ok module)
  | none =>
      let modules := modules.evict top
      match runFile tree file with
      | .error raised => (modules, .error raised)
      | .ok names =>
          let module : LoadedModule := { name := top, file := some file, directory, names }
          (modules ++ [module], .ok module)

/-- Loads a module of the package around a document. -/
def load (modules : LoadedModules) (tree : FileTree) (load : Load) (anchor : String) :
    LoadedModules × Except Raised LoadedModule :=
  let root := load.root tree.working anchor
  match findPackage? tree root load.top with
  | none =>
      (modules, .error (missing s!"No module named {quoted load.top} under {root.text}"))
  | some (file, directory) =>
      let (modules, top) := modules.loadTop tree load.top file directory
      match top with
      | .error raised => (modules, .error raised)
      | .ok top =>
          if load.module.isEmpty then
            (modules, .error { className := "ValueError", message := "Empty module name" })
          else modules.importBelow tree top (load.parts.drop 1)

end LoadedModules

end DocSuite
