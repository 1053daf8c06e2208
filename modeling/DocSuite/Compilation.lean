import DocSuite.Check.Insert
import DocSuite.Log
import DocSuite.Options
import DocSuite.Sample.Parse
import DocSuite.Sample.Scan
import DocSuite.Suite.Program

/-!
Compilation: from the text of a document to the text of its suite. Main statement: a compilation
either gives a suite or says in its error which phase failed.
-/
namespace DocSuite

open DocSuite.Syntax

inductive CompileFault
  | sample (fault : SampleFault)
  | manifest (fault : ManifestFault)
  | print (fault : PrintFault)
  deriving Repr

namespace SampleFault

def message : SampleFault → String
  | refused report => report.text
  | nullCharacter => "source code string cannot contain null bytes"
  | splitCharacter fault => fault.message

end SampleFault

namespace ManifestFault

/-- What the kind of a value in a manifest is called in messages. -/
def kindName : Toml.Value → String
  | .text _ => "str"
  | .integer _ => "int"
  | .float _ => "float"
  | .boolean _ => "bool"
  | .dateTime _ => "datetime.datetime"
  | .date _ => "datetime.date"
  | .time _ => "datetime.time"
  | .array _ => "list"
  | .table _ => "dict"

def message : ManifestFault → String
  | refused report => report.text
  | encoding fault => fault.message
  | longInteger message => message
  | noTable value => s!"'{kindName value}' object has no attribute 'get'"

end ManifestFault

def CompileFault.message : CompileFault → String
  | sample fault => fault.message
  | manifest fault => fault.message
  | print fault => fault.message

/-- The report of a fault that one tells of. -/
def CompileFault.report? : CompileFault → Option Report
  | sample (.refused report) => some report
  | manifest (.refused report) => some report
  | _ => none

/-- The suite of a document. -/
structure Compiled where
  program : Program
  /-- The imports behind the preamble, with the loads that they need. -/
  loaded : Loaded
  text : String

namespace Compilation

/-- What is recorded of an expectation that a check was put in for. -/
def findingEvent (finding : Finding) : LogEvent :=
  let line := ("line", Value.int finding.line)
  match finding.expectation with
  | .value _ => .message .debug "Rewriting repr annotation" [line]
  | .error name _ =>
      .message .debug "Rewriting error annotation" [line, ("error", .text name)]

/-- Puts the checks into samples, from a number on. -/
def casesFrom (index : Nat) (checks : Checks) :
    List Sample → Checks × Except CompileFault (List Case)
  | [] => (checks, .ok [])
  | sample :: samples =>
      match sample.parse (some index) with
      | .error fault => (checks, .error (.sample fault))
      | .ok body =>
          let (body, checks) := checks.insert body
          let (checks, cases) := casesFrom (index + 1) checks samples
          (checks, cases.map (⟨sample.caseTitle, body, true⟩ :: ·))

/-- The cases of a document, with the imports that they share. -/
def cases (samples : List Sample) : Logged CompileFault (List Case × Checks) :=
  let (checks, cases) := casesFrom 0 {} samples
  (checks.findings.map findingEvent, cases.map fun cases => (cases, checks))

/-- What is recorded of a module that was located. -/
def locatedEvent (load : Load) : LogEvent :=
  .message .debug "Remapped import"
    [("module", .text load.module), ("location", .text load.location)]

/-- The suite of a program that loads the package around its document. -/
def generate (checkout : Checkout) (program : Program) : Logged CompileFault Compiled :=
  match Loaded.ofImports checkout {} program.otherImports with
  | .error fault => ([], .error (.manifest fault))
  | .ok loaded =>
      let text := Program.textOf (program.statementsWith loaded.statements)
      (loaded.located.map locatedEvent,
        match text with
        | .ok text => .ok { program, loaded, text }
        | .error fault => .error (.print fault))

def count (name : String) (n : Nat) : String × Value := (name, .int n)

/-- The phases of a compilation. -/
def phases (settings : Settings) (tree : FileTree) (source : String) :
    Logged CompileFault Compiled :=
  let samples := scan source settings.languages
  let found := LogEvent.complete "Scan" [count "samples" samples.length]
  let scanned := ([.timing "scan", found], .ok ())
  Logged.andThen scanned fun () =>
    (Logged.timed "rewrite" (cases samples)).andThen fun (cases, checks) =>
      let program : Program := ⟨settings.title, cases, checks.imports⟩
      let counts := [count "annotations" checks.findings.length,
        count "imports" checks.imports.length]
      let checkout : Checkout := ⟨tree, settings.filename, settings.output⟩
      Logged.andThen ([.complete "Rewrite" counts], .ok ()) fun () =>
        (Logged.timed "generate" (generate checkout program)).andThen fun compiled =>
          ([.complete "Generate" [count "manifest_lookups" compiled.loaded.cache.misses]],
            .ok compiled)

end Compilation

/-- The suite of a document, with what was recorded meanwhile. -/
def compile (settings : Settings) (tree : FileTree) (source : String) :
    Logged CompileFault Compiled :=
  Logged.inContext s!"compile {settings.title}" (fun fault => some fault.message)
    (Compilation.phases settings tree source)

end DocSuite
