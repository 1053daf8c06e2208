import DocSuite.CommandLine.Run
import Std.Time.Format

/-!
The program: it reads the files that a command may look at, runs the command on them and writes
what the command has added.
-/
namespace DocSuite

/-- What is at a path of the file system. -/
def nodeAt? (path : Path) : IO (Option Node) := do
  try
    let bytes ← IO.FS.readBinFile path.text
    return some (.file (bytes.toList.map UInt8.toNat))
  catch
    | .noFileOrDirectory .. => return none
    | _ => return some .directory

/-- Reads what is at a path and at those that lead to it. -/
def readAlong (tree : FileTree) (path : Path) : IO FileTree := do
  let mut tree := tree
  for step in (tree.working.inDirectory path).withParents.reverse do
    let step := step.normal
    if (tree.node? step.names).isNone then
      match (← nodeAt? step) with
      | some node => tree := tree.set step.names node
      | none => pure ()
  return tree

/-- Reads what a command may look at. -/
def readFor (arguments : List String) : IO FileTree := do
  let working := Path.ofText (← IO.currentDir).toString
  let mut tree : FileTree := { working }
  match Command.ofArguments arguments with
  | .error _ => pure ()
  | .ok command =>
      for path in command.paths working do
        tree ← readAlong tree path
  return tree

/-- Writes an addition to the file system. -/
def writeNode (names : List String) (node : Node) : IO Unit := do
  let path : Path := ⟨1, names⟩
  match node with
  | .directory => IO.FS.createDirAll path.text
  | .file bytes => IO.FS.writeBinFile path.text ⟨(bytes.map UInt8.ofNat).toArray⟩

end DocSuite

open DocSuite in
def main (arguments : List String) : IO UInt32 := do
  let tree ← readFor arguments
  let clock := (← Std.Time.PlainTime.now).format "HH:mm:ss"
  let outcome := Command.runArguments clock tree arguments
  for (names, node) in outcome.additions tree do
    writeNode names node
  IO.print outcome.standardOutput
  IO.eprint outcome.errorOutput
  match outcome.ending with
  | .finished status | .refused status => return status.toUInt32
  | .failed fault =>
      IO.eprintln fault.message
      return 1
