import DocSuite.Markdown.Html
import DocSuite.Markdown.Line

/-!
Blocks of a document and the lines that start them. A line that is indented by four columns starts
no block but code, so it never interrupts another.
-/
namespace DocSuite.Markdown

/-- The blocks of a document as a tree. -/
inductive Block
  | paragraph (text : List Char)
  /-- `line`: where the opening fence stands in the document. -/
  | fence (info content : List Char) (line : Nat)
  | quote (children : List Block)
  | list (items : List (List Block))
  | heading
  | rule
  | code
  | html
  deriving Repr

/-- The indentation that blocks around a line demand of it. -/
structure Frame where
  indent : Nat := 0
  /-- The indentation of the list whose item the line is in. -/
  list : Option Nat := none
  deriving DecidableEq, Repr

/-- What a line may interrupt. -/
inductive Interrupted
  | paragraph | definition | quote | list
  deriving DecidableEq, Repr

structure FenceStart where
  mark : Char
  size : Nat
  info : List Char
  deriving DecidableEq, Repr

/-- The marker of a list item. -/
structure ListMarker where
  size : Nat
  /-- The number of an ordered list. -/
  number : Option Nat
  mark : Char
  deriving DecidableEq, Repr

namespace Line

/-- Columns that make a line code. -/
def codeIndent : Nat := 4

def isCode (frame : Frame) (line : Line) : Bool := codeIndent ≤ line.indent - frame.indent

def isOutside (frame : Frame) (line : Line) : Bool := line.indent < frame.indent

def fence? (line : Line) : Option FenceStart :=
  match line.content with
  | [] => none
  | mark :: cs =>
      let size := 1 + (cs.takeWhile (· == mark)).length
      let info := cs.dropWhile (· == mark)
      if (mark = '~' ∨ (mark = '`' ∧ !info.contains '`')) ∧ 3 ≤ size then some ⟨mark, size, info⟩
      else none

/-- Whether the line closes a fence. -/
def closesFence (frame : Frame) (fence : FenceStart) (line : Line) : Bool :=
  !line.isCode frame && fence.size ≤ (line.content.takeWhile (· == fence.mark)).length &&
    (line.content.dropWhile (· == fence.mark)).all isSpace

def isQuote (line : Line) : Bool := line.content.head? == some '>'

def isRule (line : Line) : Bool :=
  match line.content with
  | [] => false
  | mark :: cs =>
      ['*', '-', '_'].contains mark && cs.all (fun c => c == mark || isSpace c) &&
        2 ≤ cs.count mark

/-- Whether what follows a marker leaves it one. -/
def endsMarker : List Char → Bool
  | [] => true
  | c :: _ => isSpace c

def bullet? (line : Line) : Option ListMarker :=
  match line.content with
  | mark :: cs =>
      if ['*', '-', '+'].contains mark && endsMarker cs then some ⟨1, none, mark⟩ else none
  | [] => none

/-- A number of at most nine digits in front of a period or a parenthesis. -/
def ordered? (line : Line) : Option ListMarker :=
  let digits := line.content.takeWhile Char.isDigit
  match line.content.dropWhile Char.isDigit with
  | mark :: cs =>
      if (mark == '.' || mark == ')') && !digits.isEmpty && digits.length ≤ 9 && endsMarker cs then
        some ⟨digits.length + 1,
          some (digits.foldl (fun n c => 10 * n + (c.toNat - '0'.toNat)) 0), mark⟩
      else none
  | [] => none

def marker? (line : Line) : Option ListMarker := line.ordered?.or line.bullet?

/-- Whether a list starts. One that follows a paragraph starts with the number one and with an item
that is not empty; a line that goes on in a deeper item starts none. -/
def startsList (frame : Frame) (interrupted : Option Interrupted) (line : Line) : Bool :=
  let isDeeper := match frame.list with
    | some indent => codeIndent ≤ line.indent - indent && line.isOutside frame
    | none => false
  let isStrict := interrupted = some .paragraph && !line.isOutside frame
  match line.marker? with
  | none => false
  | some marker =>
      !isDeeper && !(isStrict && (marker.number.any (· != 1) ||
        (line.content.drop marker.size).all isSpace))

/-- A run of at most six hashes in front of a space. -/
def isHeading (line : Line) : Bool :=
  let size := (line.content.takeWhile (· == '#')).length
  1 ≤ size && size ≤ 6 && endsMarker (line.content.drop size)

/-- Whether the line underlines a heading. -/
def isUnderline (line : Line) : Bool :=
  match line.content with
  | mark :: cs => (mark == '-' || mark == '=') && (cs.dropWhile (· == mark)).all isSpace
  | [] => false

/-- Whether the line starts a block in place of going on with another one. -/
def interrupts (frame : Frame) (interrupted : Interrupted) (line : Line) : Bool :=
  !line.isCode frame && (line.fence?.isSome || line.isQuote || line.isRule ||
    (interrupted != .list && (line.startsList frame (some interrupted) ||
      (Html.blockStart? line.content).any Html.BlockStart.interrupts || line.isHeading)))

/-- A line of a quote without its marker. A tab behind the marker counts as one column of it. -/
def unquote (line : Line) : Line :=
  let behind := line.content.drop 1
  let indent := line.indent.toNat
  let column := indent + 1
  let (text, column, base, isSpaced) := match behind with
    | ' ' :: cs => (cs, column + 1, line.base, true)
    | '\t' :: cs =>
        if (line.base + column) % 4 = 3 then (cs, column + 1, line.base, true)
        else (behind, column, line.base + 1, true)
    | _ => (behind, column, line.base, false)
  let (shift, stop) := measure (base + column) text
  { line with
    text, shift
    indent := stop - (base + column)
    base := indent + 1 + if isSpaced then 1 else 0 }

/-- What remains of the first line of a list item, with the indentation of the item. -/
def enterItem (marker : ListMarker) (line : Line) : Line × Nat :=
  let start := line.indent.toNat + marker.size
  let behind := line.content.drop marker.size
  let (count, stop) := measure (line.base + start) behind
  let width := stop - (line.base + start)
  let width := if behind.length ≤ count ∨ 4 < width then 1 else width
  ({ line with shift := line.shift + marker.size + count, indent := stop - line.base },
    start + width)

end Line

end DocSuite.Markdown
