import DocSuite.Path
import DocSuite.Text.Quoted
import DocSuite.Text.Utf8

/-!
Files and directories below a root. Main statement: what was written to a file is read from it.
-/
namespace DocSuite

open DocSuite.Text

inductive Node
  | file (bytes : List Nat)
  | directory
  deriving DecidableEq, Repr

inductive FileFault
  | missing (path : Path)
  | exists (path : Path)
  | isDirectory (path : Path)
  | notDirectory (path : Path)
  deriving DecidableEq, Repr

namespace FileFault

def number : FileFault → Nat
  | missing _ => 2
  | «exists» _ => 17
  | notDirectory _ => 20
  | isDirectory _ => 21

def reason : FileFault → String
  | missing _ => "No such file or directory"
  | «exists» _ => "File exists"
  | notDirectory _ => "Not a directory"
  | isDirectory _ => "Is a directory"

def path : FileFault → Path
  | missing path | «exists» path | notDirectory path | isDirectory path => path

def message (fault : FileFault) : String :=
  s!"[Errno {fault.number}] {fault.reason}: {quoted fault.path.text}"

end FileFault

structure FileTree where
  /-- Relative paths start here. -/
  working : Path
  /-- The nodes by the names that lead to them from the root, the latest first. -/
  nodes : List (List String × Node) := []
  deriving Repr

namespace FileTree

/-- The node that names lead to. -/
def node? (tree : FileTree) (names : List String) : Option Node :=
  if names.isEmpty then some .directory else tree.nodes.lookup names

/-- Follows names from a node; steps back lead through directories only. -/
def walk? (tree : FileTree) (fault : Path) : (before : List String) → List String →
    Except FileFault (List String)
  | before, [] => .ok before
  | before, name :: names =>
      match tree.node? before with
      | some .directory =>
          let next := if name = Path.parentName then before.dropLast else before ++ [name]
          walk? tree fault next names
      | some (.file _) => .error (.notDirectory fault)
      | none => .error (.missing fault)

/-- The names that lead from the root to a path. -/
def locate? (tree : FileTree) (path : Path) : Except FileFault (List String) :=
  tree.walk? path [] (tree.working.inDirectory path).names

def find? (tree : FileTree) (path : Path) : Option Node := do
  tree.node? (← (tree.locate? path).toOption)

def isFile (tree : FileTree) (path : Path) : Bool :=
  match tree.find? path with
  | some (.file _) => true
  | _ => false

def isDirectory (tree : FileTree) (path : Path) : Bool := tree.find? path == some .directory

/-- The content of a file. -/
def read (tree : FileTree) (path : Path) : Except FileFault (List Nat) := do
  let names ← tree.locate? path
  match tree.node? names with
  | some (.file bytes) => .ok bytes
  | some .directory => .error (.isDirectory path)
  | none => .error (.missing path)

def set (tree : FileTree) (names : List String) (node : Node) : FileTree :=
  { tree with nodes := (names, node) :: tree.nodes }

/-- Makes directories along names. A file in the way is an error. -/
def makeDirectories (tree : FileTree) (fault : Path) : (before : List String) → List String →
    Except FileFault FileTree
  | before, [] =>
      match tree.node? before with
      | some (.file _) => .error (.exists fault)
      | _ => .ok tree
  | before, name :: names =>
      match tree.node? before with
      | some (.file _) => .error (.notDirectory fault)
      | _ =>
          let next := if name = Path.parentName then before.dropLast else before ++ [name]
          let tree := if (tree.node? next).isNone then tree.set next .directory else tree
          makeDirectories tree fault next names

/-- Makes a directory and those above it. -/
def makeDirectory (tree : FileTree) (path : Path) : Except FileFault FileTree :=
  tree.makeDirectories path [] (tree.working.inDirectory path).names

def write (tree : FileTree) (path : Path) (bytes : List Nat) : Except FileFault FileTree := do
  let names ← tree.locate? path
  match tree.node? names with
  | some .directory => .error (.isDirectory path)
  | _ => .ok (tree.set names (.file bytes))

/-- Removes a file. -/
def remove (tree : FileTree) (path : Path) : Except FileFault FileTree := do
  let names ← tree.locate? path
  .ok { tree with nodes := tree.nodes.filter fun entry => entry.1 != names }

/-- The text of bytes, with line feeds at the ends of its lines. -/
def lineFeeds : List Char → List Char
  | '\r' :: '\n' :: cs => '\n' :: lineFeeds cs
  | '\r' :: cs => '\n' :: lineFeeds cs
  | c :: cs => c :: lineFeeds cs
  | [] => []

end FileTree

/-- Why a text file cannot be read. -/
inductive TextFault
  | file (fault : FileFault)
  | encoding (fault : Utf8.Fault)
  deriving Repr

def TextFault.message : TextFault → String
  | .file fault => fault.message
  | .encoding fault => fault.message

/-- The text in a file. -/
def FileTree.readText (tree : FileTree) (path : Path) : Except TextFault String := do
  match tree.read path with
  | .error fault => .error (.file fault)
  | .ok bytes =>
      match Utf8.decode bytes with
      | .error fault => .error (.encoding fault)
      | .ok cs => .ok (String.ofList (FileTree.lineFeeds cs))

end DocSuite
