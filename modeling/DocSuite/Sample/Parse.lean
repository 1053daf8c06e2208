import DocSuite.Report
import DocSuite.Sample.Basic
import DocSuite.Sample.Trailing
import DocSuite.Syntax.Parser

/-!
From the source of a sample to its statements. A sample becomes the body of a coroutine, so that
it may await at its top level; a sample without statements gets one that does nothing.
-/
namespace DocSuite

open DocSuite.Syntax DocSuite.Text

/-- Why a sample gives no statements. -/
inductive SampleFault
  /-- The text is not well-formed. -/
  | refused (report : Report)
  | nullCharacter
  /-- A place in the text splits a character. -/
  | splitCharacter (fault : Utf8.Fault)
  deriving Repr

namespace Sample

/-- The statement of a sample without statements. It stands where it would stand in the coroutine
that is written for such a sample. -/
def emptyBody : List Stmt := [.simple { span := ⟨⟨2, 4⟩, ⟨2, 8⟩⟩ } .pass]

/-- Without the line feeds at the end. -/
def stripLineEnd (text : String) : String :=
  String.ofList (text.toList.reverse.dropWhile (· == '\n')).reverse

/-- The report of a sample that cannot be read. `place` is the line of the fault in the sample with
the text of that line; the sample starts behind its opening fence. -/
def refusal (sample : Sample) (index : Option Int) (reason cause : String)
    (place : Option (Nat × String)) : Report :=
  let line := match sample.line, place with
    | some fence, some (line, _) => some (fence + line)
    | _, _ => none
  let context := sample.context index
  let context := match place with
    | some (_, text) =>
        if text.isEmpty then context else setKey "source_line" (.text (stripLineEnd text)) context
    | none => context
  let number := match index with
    | some index => Value.intText index
    | none => "?"
  let title := match sample.title with
    | some title => if title.isEmpty then "#" ++ number else title
    | none => "#" ++ number
  Report.sample s!"Code sample {quoted title} is not valid Python: {reason}" sample.title line
    { context, cause := some cause
      suggestions := ["Fix the sample in the document; every sample must parse"] }

/-- The name of a sample in messages. -/
def reference (index : Option Int) : String :=
  match index with
  | some index => "<sample " ++ Value.intText index ++ ">"
  | none => "<sample>"

/-- The statements of a sample, with the comments that trail them. -/
def parse (sample : Sample) (index : Option Int := none) : Except SampleFault (List Stmt) := do
  let source := sample.source.toList
  if source.contains '\x00' then throw .nullCharacter
  let body ← match parseText source with
    | .ok body => pure body
    | .error fault =>
        let reason := fault.fault.message
        let cause := s!"{reason} ({reference index}, line {fault.line})"
        throw (.refused (sample.refusal index reason cause (some (fault.line, fault.text))))
  let comments ← match readComments source with
    | .ok comments => pure comments
    | .error fault =>
        let place := match fault with
          | .unmatchedIndent line text => some (line, text)
          | _ => none
        throw (.refused (sample.refusal index fault.reason fault.message place))
  let body := if body.isEmpty then emptyBody else body
  match attachComments source comments body with
  | .ok body => pure body
  | .error fault => throw (.splitCharacter fault)

/-- The coroutine around the statements of a sample. -/
def coroutine (body : List Stmt) : Stmt :=
  .compound {} (.function true "__mddoctest_sample__" Params.empty [] none) [⟨.body, body⟩]

end Sample

end DocSuite
