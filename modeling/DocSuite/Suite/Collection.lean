import DocSuite.Compilation
import DocSuite.Execution.Evaluate
import DocSuite.Import.Execute
import DocSuite.Text.Glob

/-!
Collecting the cases of documents for a test run. A document is collected if the name of its file
matches a pattern; each of its cases becomes an item with a name of its own. Main statement: an
item is named for the title of its case, with a number if the title was there before.
-/
namespace DocSuite

open DocSuite.Text

/-- What a test run says of its documents. -/
structure CollectionRules where
  isDisabled : Bool := false
  /-- Patterns of the file names of documents. -/
  patterns : List String := []
  /-- Languages of samples, beside those that are always known. -/
  languages : List String := []

namespace CollectionRules

def defaultPatterns : List String := ["*.md"]

/-- A file is a document to collect. -/
def collects (rules : CollectionRules) (path : Path) : Bool :=
  let patterns := if rules.patterns.isEmpty then defaultPatterns else rules.patterns
  !rules.isDisabled && patterns.any fun pattern => Glob.accepts pattern path.name

end CollectionRules

/-- A case of a document in a test run. -/
structure CollectedCase where
  name : String
  suiteTitle : String
  case : Case

namespace CollectedCase

/-- What a report calls the case. -/
def label (item : CollectedCase) : String := s!"{item.suiteTitle} > {item.case.title}"

/-- The report of a check that has failed. -/
def failureText (item : CollectedCase) (message : String) : String :=
  s!"{item.label} failed\n{message}"

def run (item : CollectedCase) : Except Raised Unit := Evaluation.runCase item.case.body

/-- A title in one line, with single spaces. -/
def nameOf (title : String) : String :=
  String.ofList (join [' '] (words title.toList))

def numbered (name : String) (n : Nat) : String :=
  if n > 1 then s!"{name} [{n}]" else name

/-- Names for titles, when some have been seen. -/
def namesFrom (seen : List String) : List String → List String
  | [] => []
  | title :: titles =>
      let name := nameOf title
      numbered name (seen.count name + 1) :: namesFrom (name :: seen) titles

/-- Names for the cases with some titles. -/
def namesOf (titles : List String) : List String := namesFrom [] titles

def ofCases (suiteTitle : String) (cases : List Case) : List CollectedCase :=
  (cases.zip (namesOf (cases.map Case.title))).map fun (case, name) => ⟨name, suiteTitle, case⟩

end CollectedCase

/-- Why a document is not collected. -/
inductive CollectFault
  /-- The document is refused, with what is told of it. -/
  | refused (message : String)
  | options (fault : OptionsFault)
  | text (fault : TextFault)
  | compile (fault : CompileFault)
  | raised (raised : Raised)

/-- What the document of a file is refused with, if a report is at hand. -/
def refusedWith (path : Path) (report : Report) : CollectFault :=
  .refused s!"{path.text}: {report.text}"

/-- Runs the imports of a suite in its document. -/
def runSuite (tree : FileTree) (path : Path) (compiled : Compiled) : Except Raised Unit :=
  match futureFaults? path.name 1 compiled.program.futureImports with
  | some raised => .error raised
  | none =>
      let future := compiled.program.futureImports.map fun stmt => ([], stmt)
      (LoadedModules.runImports tree path.text [] (future ++ compiled.loaded.imports)).2

/-- The cases of a document. -/
def collect (rules : CollectionRules) (tree : FileTree) (path : Path) :
    Except CollectFault (List CollectedCase) := do
  let more := Value.list (rules.languages.map .text)
  let settings ← match Options.ofFile path.text more [] >>= Options.checked with
    | .ok (_, settings) => pure settings
    | .error (.refused report) => throw (refusedWith path report)
    | .error fault => throw (.options fault)
  let source ← match tree.readText path with
    | .ok source => pure source
    | .error fault => throw (.text fault)
  let compiled ← match (compile settings tree source).2 with
    | .ok compiled => pure compiled
    | .error fault =>
        match fault.report? with
        | some report => throw (refusedWith path report)
        | none => throw (.compile fault)
  match runSuite tree path compiled with
  | .error raised => throw (.raised raised)
  | .ok () => return CollectedCase.ofCases compiled.program.title compiled.program.cases

end DocSuite
