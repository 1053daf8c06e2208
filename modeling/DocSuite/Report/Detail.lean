import DocSuite.Report
import DocSuite.Text.Quoted

/-!
Making reports from details by name. Some details belong to one kind of report, and some are fixed
for a kind. Main statement: a report is made exactly if no detail is unknown or fixed for its kind.
-/
namespace DocSuite

open DocSuite.Text

namespace Report

inductive Kind
  | general | configuration | sample | expectation | manifest
  deriving DecidableEq, Repr

/-- Something to be told with an error. -/
inductive Detail
  | code (text : Option String)
  | category (category : Option Category)
  | severity (severity : Option Severity)
  | context (entries : List (String × Value))
  | suggestions (texts : List String)
  | cause (text : Option String)
  | timestamp (text : Option String)
  | title (text : Option String)
  | line (number : Option Int)
  | comment (text : Option String)
  | path (text : Option String)
  /-- A detail of no known name. -/
  | other (name : String)
  deriving Repr

namespace Kind

def name : Kind → String
  | general => "MdDoctestError"
  | configuration => "ConfigurationError"
  | sample => "SampleParseError"
  | expectation => "AnnotationError"
  | manifest => "ManifestError"

/-- The names of the details that only this kind has. -/
def own : Kind → List String
  | sample => ["title", "line"]
  | expectation => ["comment"]
  | manifest => ["path"]
  | _ => []

/-- The names of the details that are the same in all reports of this kind. -/
def fixed : Kind → List String
  | general => []
  | configuration => ["category"]
  | _ => ["error_code", "category", "severity"]

end Kind

namespace Detail

def name : Detail → String
  | code _ => "error_code"
  | category _ => "category"
  | severity _ => "severity"
  | context _ => "context"
  | suggestions _ => "suggestions"
  | cause _ => "cause"
  | timestamp _ => "timestamp"
  | title _ => "title"
  | line _ => "line"
  | comment _ => "comment"
  | path _ => "path"
  | other name => name

/-- The names of the details that all kinds have. -/
def common : List String :=
  ["error_code", "category", "severity", "context", "suggestions", "timestamp", "cause"]

end Detail

/-- The name of the message among the details. -/
def messageName : String := "message"

/-- Why a report cannot be made. -/
inductive DetailFault
  | secondMessage (kind : Kind)
  /-- A detail that is fixed for the kind. -/
  | fixed (name : String)
  | unexpected (name : String)
  deriving DecidableEq, Repr

def DetailFault.message : DetailFault → String
  | secondMessage kind =>
      s!"{kind.name}.__init__() got multiple values for argument {quoted messageName}"
  | fixed name =>
      s!"mddoctest.errors.{Kind.general.name}.__init__() got multiple values for keyword " ++
        s!"argument {quoted name}"
  | unexpected name =>
      s!"{Kind.general.name}.__init__() got an unexpected keyword argument {quoted name}"

/-- What is wrong with the first of some details that is not right. -/
def detailFault? (kind : Kind) (details : List Detail) : Option DetailFault :=
  let shared := (details.map Detail.name).filter fun name => !kind.own.contains name
  if shared.contains messageName then some (.secondMessage kind)
  else
    match shared.find? kind.fixed.contains with
    | some name => some (.fixed name)
    | none => (shared.find? fun name => !Detail.common.contains name).map .unexpected

/-- Adds a detail that all kinds have. -/
def withDetail (report : Report) : Detail → Report
  | .code text => { report with code := text }
  | .category category => { report with category }
  | .severity severity => { report with severity }
  | .context entries => { report with context := entries }
  | .suggestions texts => { report with suggestions := texts }
  | .cause text => { report with cause := text }
  | .timestamp text => { report with timestamp := text }
  | _ => report

/-- The report with the shared details, before those of its kind enter the context. -/
def shared (details : List Detail) : Report :=
  details.foldl withDetail { subject := .general, message := "" }

def titleOf (details : List Detail) : Option String :=
  details.findSome? fun | .title text => text | _ => none

def lineOf (details : List Detail) : Option Int :=
  details.findSome? fun | .line number => number | _ => none

def commentOf (details : List Detail) : Option String :=
  details.findSome? fun | .comment text => text | _ => none

def pathOf (details : List Detail) : Option String :=
  details.findSome? fun | .path text => text | _ => none

/-- The report of a kind with some details. -/
def make (kind : Kind) (message : String) (details : List Detail) : Except DetailFault Report :=
  match detailFault? kind details with
  | some fault => .error fault
  | none =>
      let base := shared details
      let given : Details :=
        { context := base.context, suggestions := base.suggestions, cause := base.cause }
      let report := match kind with
        | .general => { base with message }
        | .configuration =>
            { configuration message given with code := base.code, severity := base.severity }
        | .sample => sample message (titleOf details) (lineOf details) given
        | .expectation => expectation message (commentOf details) given
        | .manifest => manifest message (pathOf details) given
      .ok { report with timestamp := base.timestamp }

end Report

end DocSuite
