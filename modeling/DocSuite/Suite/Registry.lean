import DocSuite.Execution.Behavior
import DocSuite.Report
import DocSuite.Text.Quoted

/-!
Registering suites. While a suite is described, it is open, and the innermost open suite takes the
cases. Main statement: whatever a description does, the open suites are the same behind it, but
for the cases that the innermost took.
-/
namespace DocSuite

open DocSuite.Text

/-- A case that was registered. -/
structure RegisteredCase where
  title : String
  isAsync : Bool
  behavior : Behavior
  deriving Repr

structure RegisteredSuite where
  title : String
  cases : List RegisteredCase := []
  deriving Repr

/-- A step of a description. -/
inductive Registration
  /-- Describes a suite, which is kept under a key. -/
  | describe (key title : String) (body : List Registration)
  | case (case : RegisteredCase)
  | raises (raised : Raised)
  /-- Takes some of the exceptions that are raised by its body, and goes on with a handler. -/
  | handled (takes : Raised → Bool) (body handler : List Registration)

instance : Inhabited Registration := ⟨.handled Raised.isError [] []⟩

structure Registry where
  /-- The suites that are being described, the innermost first. -/
  opened : List RegisteredSuite := []
  /-- The suites that have been described. -/
  suites : List (String × RegisteredSuite) := []
  deriving Repr

namespace RegisteredCase

def run (case : RegisteredCase) : Except Raised Unit :=
  if case.isAsync then (Awaitable.mk true case.behavior).awaitOnly else case.behavior.callOnly

end RegisteredCase

namespace RegisteredSuite

def add (suite : RegisteredSuite) (case : RegisteredCase) : RegisteredSuite :=
  { suite with cases := suite.cases ++ [case] }

/-- Runs cases until one fails. The titles are those of the cases that were started. -/
def runCases : List RegisteredCase → List String × Except Raised Unit
  | [] => ([], .ok ())
  | case :: cases =>
      match case.run with
      | .error raised => ([case.title], .error raised)
      | .ok () =>
          let (titles, result) := runCases cases
          (case.title :: titles, result)

def run (suite : RegisteredSuite) : List String × Except Raised Unit := runCases suite.cases

end RegisteredSuite

namespace Registry

/-- Adds a case to the innermost open suite. -/
def add (registry : Registry) (case : RegisteredCase) : Registry × Except Raised Unit :=
  match registry.opened with
  | [] =>
      (registry, .error
        { className := "RuntimeError"
          message := s!"Case {quoted case.title} registered outside of a suite" })
  | suite :: outer => ({ registry with opened := suite.add case :: outer }, .ok ())

/-- Opens a suite. -/
def enter (registry : Registry) (title : String) : Registry :=
  { registry with opened := { title } :: registry.opened }

/-- Closes the innermost suite, and keeps it if its description has succeeded. -/
def leave (registry : Registry) (key : String) (result : Except Raised Unit) : Registry :=
  match registry.opened, result with
  | suite :: outer, .ok () => ⟨outer, setKey key suite registry.suites⟩
  | _ :: outer, .error _ => { registry with opened := outer }
  | [], _ => registry

mutual

def step (registry : Registry) : Registration → Registry × Except Raised Unit
  | .describe key title body =>
      let (inner, result) := steps (registry.enter title) body
      (inner.leave key result, result)
  | .case case => registry.add case
  | .raises raised => (registry, .error raised)
  | .handled takes body handler =>
      let (registry, result) := steps registry body
      match result with
      | .ok () => (registry, .ok ())
      | .error raised => if takes raised then steps registry handler else (registry, .error raised)

def steps (registry : Registry) : List Registration → Registry × Except Raised Unit
  | [] => (registry, .ok ())
  | first :: rest =>
      let (registry, result) := step registry first
      match result with
      | .error raised => (registry, .error raised)
      | .ok () => steps registry rest

end

end Registry

end DocSuite
