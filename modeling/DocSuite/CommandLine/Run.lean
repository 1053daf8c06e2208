import DocSuite.Compilation
import DocSuite.CommandLine.Command

/-!
Running commands on a file tree. Main statement: a command that fails with a message ends with
status 1 and writes nothing to the standard output.
-/
namespace DocSuite

/-- Why a command fails. -/
inductive CommandFault
  | options (fault : OptionsFault)
  | text (fault : TextFault)
  | compile (fault : CompileFault)
  | output (fault : FileFault)
  deriving Repr

namespace CommandFault

def message : CommandFault → String
  | options fault => fault.message
  | text fault => fault.message
  | compile fault => fault.message
  | output fault => fault.message

/-- A command foresees the faults that come with a report, and those of files. -/
def isForeseen : CommandFault → Bool
  | options (.refused _) => true
  | text (.file _) => true
  | compile fault => fault.report?.isSome
  | output _ => true
  | _ => false

end CommandFault

inductive Ending
  | finished (status : Nat)
  /-- The arguments leave nothing to be done. -/
  | refused (status : Nat)
  /-- A fault that no command foresees. -/
  | failed (fault : CommandFault)
  deriving Repr

/-- What a command leaves. -/
structure Outcome where
  tree : FileTree
  standardOutput : String := ""
  errorOutput : String := ""
  ending : Ending := .finished 0
  deriving Repr

namespace Outcome

/-- The least level of what is recorded. -/
def recordedLevel : Nat := Level.info.number

/-- The least level of what is told of events when nothing is recorded. -/
def urgentLevel : Nat := 30

/-- What is told of the events of a compilation; `clock` is the time of the day. -/
def logText (isVerbose : Bool) (clock : String) (events : List LogEvent) : String :=
  let lines := if isVerbose then
      (LogEvent.kept recordedLevel events).map fun event =>
        s!"{clock} - {Command.programName} - {event.level.text} - " ++ event.text ""
    else (LogEvent.kept urgentLevel events).map (LogEvent.text "")
  String.join (lines.map (· ++ "\n"))

/-- The command has failed, after it has told of some events. -/
def ofFault (tree : FileTree) (told : String) (fault : CommandFault) : Outcome :=
  if fault.isForeseen then
    { tree, errorOutput := told ++ s!"{Command.programName}: {fault.message}\n"
      ending := .finished 1 }
  else { tree, errorOutput := told, ending := .failed fault }

/-- What the command has added to a file tree, the first addition first. -/
def additions (before : FileTree) (outcome : Outcome) : List (List String × Node) :=
  let nodes := outcome.tree.nodes
  (nodes.take (nodes.length - before.nodes.length)).reverse

end Outcome

/-- Writes a text into a file, in a directory that is made where it is missing. -/
def FileTree.writeText (tree : FileTree) (path : Path) (text : String) :
    Except FileFault FileTree := do
  let tree ← tree.makeDirectory path.parent
  tree.write path (Text.Utf8.encode text.toList)

namespace Command

/-- A text that says something. -/
def given? (key : String) (text? : Option String) : List (String × Value) :=
  match text? with
  | some text => if text.isEmpty then [] else [(key, .text text)]
  | none => []

/-- The settings for the document of a file, and its text. -/
def document (tree : FileTree) (path : Path) (languages : List String)
    (given : List (String × Value)) : Except CommandFault (Settings × String) := do
  let more := Value.list (languages.map .text)
  let settings ← match Options.ofFile path.text more given >>= Options.checked with
    | .ok (_, settings) => pure settings
    | .error fault => throw (.options fault)
  match tree.readText path with
  | .ok source => return (settings, source)
  | .error fault => throw (.text fault)

/-- The line that lists a sample. -/
def sampleLine (number : Nat) (sample : Sample) : String :=
  let line := match sample.line with
    | some n => toString n
    | none => "?"
  "\t".intercalate [toString number, line, sample.language, sample.caseTitle] ++ "\n"

def runSamples (tree : FileTree) (path : Path) (languages : List String) : Outcome :=
  match document tree path languages [] with
  | .error fault => .ofFault tree "" fault
  | .ok (settings, source) =>
      let samples := scan source settings.languages
      let lines := samples.zipIdx.map fun (sample, n) => sampleLine n sample
      { tree, standardOutput := String.join lines }

def runCompile (clock : String) (tree : FileTree) (path : Path) (output : Option Path)
    (name : Option String) (languages : List String) (isVerbose : Bool) : Outcome :=
  let given := given? "name" name ++ given? "output" (output.map Path.text)
  match document tree path languages given with
  | .error fault => .ofFault tree "" fault
  | .ok (settings, source) =>
      let (events, result) := DocSuite.compile settings tree source
      let told := Outcome.logText isVerbose clock events
      match result with
      | .error fault => .ofFault tree told (.compile fault)
      | .ok compiled =>
          match output with
          | none => { tree, standardOutput := compiled.text, errorOutput := told }
          | some output =>
              match tree.writeText output compiled.text with
              | .ok tree => { tree, errorOutput := told }
              | .error fault => .ofFault tree told (.output fault)

def run (clock : String) (tree : FileTree) : Command → Outcome
  | compile path output name languages isVerbose =>
      runCompile clock tree (Path.ofText path) (output.map Path.ofText) name languages isVerbose
  | samples path languages => runSamples tree (Path.ofText path) languages

/-- The paths that a command may look at when it runs in a directory: the document, the manifests
at and above it, and the output. -/
def paths (working : Path) : Command → List Path
  | samples path _ => [Path.ofText path]
  | compile path output _ _ _ =>
      let manifests := (Path.absolute working path).parent.withParents.map fun directory =>
        directory.child Manifest.fileName
      Path.ofText path :: manifests ++ (output.map Path.ofText).toList

/-- Does what arguments ask for. -/
def runArguments (clock : String) (tree : FileTree) (arguments : List String) : Outcome :=
  match ofArguments arguments with
  | .ok command => command.run clock tree
  | .error (.help program) =>
      { tree, standardOutput := Refusal.helpText program, ending := .refused 0 }
  | .error .version => { tree, standardOutput := versionText ++ "\n", ending := .refused 0 }
  | .error (.usage program fault) =>
      { tree, errorOutput := Refusal.usageText program ++ Refusal.usageLine program fault ++ "\n"
        ending := .refused 2 }

end Command

end DocSuite
