import DocSuite.Report
import DocSuite.Syntax.Basic
import DocSuite.Text.Blank
import DocSuite.Text.Identifier

/-!
Expectations: what the comments behind an expression say of its value. The first comment holds a
marker, which decides the kind; the comments after it continue the expected text. Main statement:
a comment has one kind at most, and the kind decides whether its comments can be read.
-/
namespace DocSuite

open DocSuite.Syntax DocSuite.Text

inductive Expectation
  /-- The literal form of the value is this text. -/
  | value (expected : String)
  /-- The evaluation ends in an error of this name, with this message. -/
  | error (name message : String)
  deriving DecidableEq, Repr

/-- Why comments hold no expectation of a kind. -/
inductive ExpectationFault
  | noComment
  | noMarker (comment : String)
  | noErrorName (comment : String)
  | unknownKind (kind comment : String)
  deriving DecidableEq, Repr

def ExpectationFault.message : ExpectationFault → String
  | .noComment => "list index out of range"
  | .noMarker _ => "Repr annotation marker not found"
  | .noErrorName _ => "Error annotation has no 'Name: message' prefix"
  | .unknownKind kind _ => "Unknown annotation kind " ++ quoted kind

namespace Expectation

inductive Kind
  | value
  | error
  deriving DecidableEq, Repr

def Kind.text : Kind → String
  | .value => "repr"
  | .error => "error"

def Kind.ofText? (text : String) : Option Kind :=
  if text = Kind.value.text then some .value
  else if text = Kind.error.text then some .error
  else none

/-- What follows an arrow and a blank. -/
def valueText? (comment : List Char) : Option (List Char) :=
  match trimLeft comment with
  | '=' :: '>' :: c :: rest => if isBlank c then some rest else none
  | _ => none

/-- The ending of the names of errors. -/
def errorEnding : List Char := "Error".toList

/-- The name of an error in front of a colon and a blank, and what follows them. -/
def errorText? (comment : List Char) : Option (List Char × List Char) :=
  let text := trimLeft comment
  let name := text.takeWhile isAsciiLetter
  match text.dropWhile isAsciiLetter with
  | ':' :: c :: rest => if errorEnding.isSuffixOf name && isBlank c then some (name, rest) else none
  | _ => none

/-- The kind of the expectation that a comment starts. -/
def kind? (comment : String) : Option Kind :=
  if (valueText? comment.toList).isSome then some .value
  else if (errorText? comment.toList).isSome then some .error
  else none

/-- The comment without its first character, by custom the space behind the hash. -/
def continuation (comment : String) : String := String.ofList (comment.toList.drop 1)

/-- The expected text: what the first comment holds of it, with a line for each further comment. -/
def textOf (first : List Char) (others : List String) : String :=
  "\n".intercalate (String.ofList first :: others.map continuation)

/-- The expectation of a kind in comments. -/
def ofComments (comments : List String) (kind : String) : Except ExpectationFault Expectation :=
  match comments with
  | [] => .error .noComment
  | first :: others =>
      match Kind.ofText? kind with
      | some .value =>
          match valueText? first.toList with
          | some text => .ok (.value (textOf text others))
          | none => .error (.noMarker first)
      | some .error =>
          match errorText? first.toList with
          | some (name, text) => .ok (.error (String.ofList name) (textOf text others))
          | none => .error (.noErrorName first)
      | none => .error (.unknownKind kind first)

/-- The expectation in the comments that trail an expression. -/
def ofTrailing? (comments : List String) : Option Expectation := do
  let first ← comments.head?
  let kind ← kind? first
  (ofComments comments kind.text).toOption

end Expectation

namespace Syntax

/-- The expression of a statement that is nothing else, with what its comments expect of it. -/
def Stmt.expectation? : Stmt → Option (Expr × Expectation)
  | .simple site (.expr value) =>
      (Expectation.ofTrailing? (site.comments.map Comment.text)).map fun e => (value, e)
  | _ => none

end Syntax

end DocSuite
