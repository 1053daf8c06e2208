import DocSuite.Value

/-!
Reports: what an error of the compiler says, with its code, its category, the context in which it
arose and what can be done about it. Main statement: the parts of a report appear in its text in
a fixed order, each only if there is something to say.
-/
namespace DocSuite

inductive Severity
  | low | medium | high | critical
  deriving DecidableEq, Repr

def Severity.text : Severity → String
  | .low => "low"
  | .medium => "medium"
  | .high => "high"
  | .critical => "critical"

inductive Category
  | configuration | parse | expectation | resolution
  deriving DecidableEq, Repr

def Category.text : Category → String
  | .configuration => "configuration"
  | .parse => "parse"
  | .expectation => "annotation"
  | .resolution => "resolution"

/-- What a report is about. -/
inductive Subject
  | general
  | configuration
  | sample (title : Option String) (line : Option Int)
  | expectation (comment : Option String)
  | manifest (path : Option String)
  deriving DecidableEq, Repr

structure Report where
  subject : Subject
  message : String
  code : Option String := none
  category : Option Category := none
  severity : Option Severity := some .medium
  context : List (String × Value) := []
  suggestions : List String := []
  /-- The text of the error that led to this one. -/
  cause : Option String := none
  /-- When the error arose, if that is told. -/
  timestamp : Option String := none
  deriving Repr

/-- Details that whoever reports an error may add. -/
structure Details where
  context : List (String × Value) := []
  suggestions : List String := []
  cause : Option String := none

namespace Report

def ofDetails (subject : Subject) (message : String) (details : Details) : Report :=
  { subject, message, context := details.context, suggestions := details.suggestions
    cause := details.cause }

/-- Options that cannot be used. -/
def configuration (message : String) (details : Details := {}) : Report :=
  { ofDetails .configuration message details with category := some .configuration }

/-- A sample that cannot be read; its title and line enter the context. -/
def sample (message : String) (title : Option String) (line : Option Int)
    (details : Details := {}) : Report :=
  let report := ofDetails (.sample title line) message details
  let context := match title with
    | some t => if t.isEmpty then report.context else setKey "sample" (.text t) report.context
    | none => report.context
  let context := match line with
    | some n => setKey "line" (.int n) context
    | none => context
  { report with code := some "E100", category := some .parse, severity := some .high, context }

/-- A comment that is no annotation of the kind that it was taken for. -/
def expectation (message : String) (comment : Option String) (details : Details := {}) : Report :=
  let report := ofDetails (.expectation comment) message details
  let context := match comment with
    | some c => setKey "comment" (.text c) report.context
    | none => report.context
  { report with
    code := some "E200", category := some .expectation, severity := some .critical, context }

/-- A manifest that cannot be read. -/
def manifest (message : String) (path : Option String) (details : Details := {}) : Report :=
  let report := ofDetails (.manifest path) message details
  let context := match path with
    | some p => if p.isEmpty then report.context else setKey "manifest" (.text p) report.context
    | none => report.context
  { report with code := some "E300", category := some .resolution, severity := some .high, context }

/-- The parts of the text. -/
def parts (report : Report) : List String :=
  let code := match report.code with
    | some code => if code.isEmpty then [] else ["[" ++ code ++ "]"]
    | none => []
  let context := if report.context.isEmpty then [] else
    ["Context: " ++ ", ".intercalate (report.context.map fun (key, v) => key ++ "=" ++ v.str)]
  let suggestions := if report.suggestions.isEmpty then [] else
    ["Suggestions: " ++ "; ".intercalate report.suggestions]
  report.message :: code ++ context ++ suggestions

def text (report : Report) : String := " | ".intercalate report.parts

end Report

end DocSuite
