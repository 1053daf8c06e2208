import DocSuite.Order
import DocSuite.Sample.Comments
import DocSuite.Text.Utf8

/-!
Which statement a comment trails. Statements are placed in bytes and comments in characters, so
places are converted first. Main statement: a comment trails a statement that ends before it, with
no other statement starting in between.
-/
namespace DocSuite.Syntax

open DocSuite.Text

namespace Position

/-- The order in which places stand in a text. -/
def before (a b : Position) : Bool :=
  a.line < b.line || (a.line == b.line && a.column < b.column)

def upTo (a b : Position) : Bool := !b.before a

def later (a b : Position) : Position := if a.before b then b else a

end Position

namespace Stmt

mutual

/-- The statement and those inside it, each with the number of nodes above it, in the order of the
text. -/
def walk (depth : Nat) : Stmt → List (Nat × Stmt)
  | .simple site form => [(depth, .simple site form)]
  | .compound site head blocks => (depth, .compound site head blocks) :: walkBlocks depth blocks

def walkBlocks (depth : Nat) : List Block → List (Nat × Stmt)
  | [] => []
  | ⟨label, body⟩ :: rest =>
      walkAll (depth + 1 + match label with
        | .handler .. | .case .. => 1
        | _ => 0) body ++ walkBlocks depth rest

def walkAll (depth : Nat) : List Stmt → List (Nat × Stmt)
  | [] => []
  | stmt :: rest => walk depth stmt ++ walkAll depth rest

end

mutual

/-- Gives each statement the comments found under its number; the next number comes back. -/
def withComments (table : Nat → List Comment) (number : Nat) : Stmt → Stmt × Nat
  | .simple site form => (.simple { site with comments := table number } form, number + 1)
  | .compound site head blocks =>
      let (blocks, next) := blocksWithComments table (number + 1) blocks
      (.compound { site with comments := table number } head blocks, next)

def blocksWithComments (table : Nat → List Comment) (number : Nat) : List Block → List Block × Nat
  | [] => ([], number)
  | ⟨label, body⟩ :: rest =>
      let (body, next) := bodyWithComments table number body
      let (rest, next) := blocksWithComments table next rest
      (⟨label, body⟩ :: rest, next)

def bodyWithComments (table : Nat → List Comment) (number : Nat) : List Stmt → List Stmt × Nat
  | [] => ([], number)
  | stmt :: rest =>
      let (stmt, next) := withComments table number stmt
      let (rest, next) := bodyWithComments table next rest
      (stmt :: rest, next)

end

end Stmt

/-- The place of a byte offset in a line, counted in characters. Lines that the text does not have
keep the offset. -/
def characterPosition (lines : List (List Char)) (place : Position) :
    Except Utf8.Fault Position :=
  match place.line with
  | 0 => .ok place
  | n + 1 =>
      match lines[n]? with
      | some line => do
          let cut ← Utf8.decode ((Utf8.encode line).take place.column)
          return { place with column := cut.length }
      | none => .ok place

/-- A statement's number with its span in characters. -/
structure Placed where
  number : Nat
  span : Span
  deriving DecidableEq, Repr

/-- The statements of a body in the order of their depth, with their spans in characters. -/
def placedStatements (lines : List (List Char)) (body : List Stmt) :
    Except Utf8.Fault (List Placed) := do
  let numbered := (Stmt.walkAll 0 body).zipIdx
  let groups := numbered.foldr (fun entry (done : List (List ((Nat × Stmt) × Nat)) × List _) =>
    let group := entry :: done.2
    if entry.1.1 = 0 then (group :: done.1, []) else (done.1, group)) ([], [])
  let ordered := groups.1.flatMap (sortBy fun a b => a.1.1 < b.1.1)
  ordered.mapM fun ((_, stmt), number) => do
    let start ← characterPosition lines stmt.site.span.start
    let stop ← characterPosition lines stmt.site.span.stop
    return ⟨number, ⟨start, stop⟩⟩

/-- The statement that a comment trails. Of nested statements that end at the same place, a comment
in that line belongs to the innermost, a later one to the innermost that is not indented deeper
than the comment. -/
def trailingOwner? (placed : List Placed) (comment : Comment) : Option Nat :=
  let place : Position := ⟨comment.line, comment.column⟩
  let ended := placed.filter fun p => p.span.stop.upTo place
  match ended with
  | [] => none
  | first :: _ =>
      let last := ended.foldl (fun stop p => stop.later p.span.stop) first.span.stop
      let isBetween (p : Placed) : Bool := last.upTo p.span.start && p.span.start.before place
      if placed.any isBetween then none
      else
        let candidates :=
          sortBy (fun a b => a.span.start.before b.span.start)
            (ended.filter fun p => p.span.stop == last)
        let owner :=
          if comment.line = last.line then candidates.getLast?
          else
            let fitting := candidates.filter fun p => p.span.start.column ≤ comment.column
            (fitting.getLast?).or candidates.getLast?
        owner.map Placed.number

/-- Gives the statements of a body the comments of the text that trail them. -/
def attachComments (source : List Char) (comments : List Comment) (body : List Stmt) :
    Except Utf8.Fault (List Stmt) := do
  let placed ← placedStatements (splitAt '\n' source) body
  let owners := comments.map fun comment => (trailingOwner? placed comment, comment)
  let table (number : Nat) : List Comment :=
    owners.filterMap fun (owner, comment) => if owner = some number then some comment else none
  return (Stmt.bodyWithComments table 0 body).1

end DocSuite.Syntax
