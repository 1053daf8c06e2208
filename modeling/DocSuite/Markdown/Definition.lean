import DocSuite.Markdown.Block
import DocSuite.Markdown.Link

/-!
Definitions of links: a label in brackets, a colon, a destination and perhaps a title. They may go
on over lines as long as no other block interrupts them. Main statement: a definition takes up
whole lines, and at least one.
-/
namespace DocSuite.Markdown

open DocSuite.Text

/-- The text of a definition that is being read. The last line of the text read so far may be
followed by others. -/
structure Cursor where
  rest : List Char
  /-- The lines that may follow, with their line feeds. -/
  next : List (List Char)
  /-- The number of lines that are in use. -/
  used : Nat := 1
  deriving Repr

namespace Cursor

/-- Brings in the next line when a line feed is reached. -/
def extend (cursor : Cursor) : Cursor :=
  match cursor.next with
  | [] => cursor
  | line :: next => { rest := cursor.rest ++ line, next, used := cursor.used + 1 }

/-- Skips blanks, over line feeds too. -/
def skipBlanks : (fuel : Nat) → Cursor → Cursor
  | 0, cursor => cursor
  | fuel + 1, cursor =>
      match cursor.rest with
      | '\n' :: _ =>
          let cursor := cursor.extend
          skipBlanks fuel { cursor with rest := cursor.rest.drop 1 }
      | c :: rest => if isSpace c then skipBlanks fuel { cursor with rest } else cursor
      | [] => cursor

/-- The number of steps that reading the whole text can take. -/
def bound (cursor : Cursor) : Nat := cursor.rest.length + cursor.next.flatten.length + 1

/-- Reads a label up to its closing bracket. -/
def label? : (fuel : Nat) → (label : List Char) → Cursor → Option (List Char × Cursor)
  | 0, _, _ => none
  | fuel + 1, label, cursor =>
      match cursor.rest with
      | [] => none
      | '[' :: _ => none
      | ']' :: rest => some (label.reverse, { cursor with rest })
      | '\n' :: _ =>
          let cursor := cursor.extend
          label? fuel ('\n' :: label) { cursor with rest := cursor.rest.drop 1 }
      | '\\' :: '\n' :: _ =>
          let cursor := cursor.extend
          label? fuel ('\n' :: '\\' :: label) { cursor with rest := cursor.rest.drop 2 }
      | '\\' :: c :: rest => label? fuel (c :: '\\' :: label) { cursor with rest }
      | c :: rest => label? fuel (c :: label) { cursor with rest }

/-- Reads a title from behind its opening mark, over lines if need be. Says whether it is empty and
whether it goes on over lines. -/
def title? (mark : Char) (continued : Bool) : (fuel : Nat) → Cursor → Option (Bool × Bool × Cursor)
  | 0, _ => none
  | fuel + 1, cursor =>
      match titleEnd mark 0 cursor.rest with
      | .closed size isEmpty =>
          some (isEmpty && !continued, continued, { cursor with rest := cursor.rest.drop size })
      | .refused => none
      | .open =>
          match cursor.next with
          | [] => none
          | line :: next => title? mark true fuel { rest := line, next, used := cursor.used + 1 }

/-- Whether only spaces are left in the line. -/
def isAtEnd (cursor : Cursor) : Bool :=
  match cursor.rest.dropWhile isSpace with
  | [] | '\n' :: _ => true
  | _ => false

end Cursor

/-- The lines that can go on with a definition, as text. -/
def continuationLines (frame : Frame) : List Line → List (List Char)
  | [] => []
  | line :: lines =>
      if line.isEmpty then []
      else if line.isCode frame || line.indent < 0 || !line.interrupts frame .definition then
        (line.content ++ if line.ended then ['\n'] else []) :: continuationLines frame lines
      else []

/-- The label that a definition at the first line defines, and the number of its lines. -/
def definition? (frame : Frame) (line : Line) (others : List Line) :
    Option (List Char × Nat) := do
  let '[' :: text := line.content | none
  let cursor : Cursor :=
    { rest := text ++ (if line.ended then ['\n'] else []), next := continuationLines frame others }
  let fuel := cursor.bound
  let (label, cursor) ← cursor.label? fuel []
  let ':' :: rest := cursor.rest | none
  let cursor := Cursor.skipBlanks fuel { cursor with rest }
  let destination ← destination? cursor.rest
  if !isAllowed destination.value then none
  let cursor := { cursor with rest := cursor.rest.drop destination.size }
  let spaced := Cursor.skipBlanks fuel cursor
  let title := do
    let (mark, rest) ← titleStart? spaced.rest
    let (isEmpty, continued, behind) ← Cursor.title? mark false fuel { spaced with rest }
    if spaced.rest = cursor.rest ∧ spaced.used = cursor.used ∧ !continued then none
    else some (isEmpty, behind)
  let cursor := match title with
    | some (isEmpty, behind) => if behind.isAtEnd || isEmpty then behind else cursor
    | none => cursor
  if !cursor.isAtEnd then none
  let label := normalLabel label
  if label.isEmpty then none
  some (label, cursor.used)

end DocSuite.Markdown
