import DocSuite.Text.Blank

/-!
Lines of a document as blocks see them. A quote cuts its marker off its lines and a list shifts
the content of the line that starts an item; columns count tabs as reaching the next multiple of
four. Main statement: cutting indentation off a line leaves the end of its text.
-/
namespace DocSuite.Markdown

structure Line where
  /-- The text behind the markers of the quotes around it. -/
  text : List Char
  /-- The number of characters in front of the content. -/
  shift : Nat
  /-- The column of the content. A negative column marks a line that can only continue a
  paragraph. -/
  indent : Int
  /-- The column of the text, for tabs. -/
  base : Nat := 0
  /-- The place in the document, counted from one. -/
  number : Nat
  /-- A line feed follows. -/
  ended : Bool
  deriving DecidableEq, Repr

def isSpace (c : Char) : Bool := c == ' ' || c == '\t'

/-- The column behind a space or tab at a column. -/
def nextColumn (c : Char) (column : Nat) : Nat :=
  if c = '\t' then column + (4 - column % 4) else column + 1

namespace Line

def content (line : Line) : List Char := line.text.drop line.shift

def isEmpty (line : Line) : Bool := line.content.isEmpty

/-- The number of spaces and tabs at the start of a text, and the column behind them. -/
def measure (column : Nat) : List Char → Nat × Nat
  | c :: cs =>
      if isSpace c then
        let (count, stop) := measure (nextColumn c column) cs
        (count + 1, stop)
      else (0, column)
  | [] => (0, column)

def ofText (number : Nat) (text : List Char) (ended : Bool) : Line :=
  let (shift, column) := measure 0 text
  { text, shift, indent := column, number, ended }

/-- The lines of a text from a number on. A last line of spaces alone counts only if it ends in
a line feed. -/
def ofTexts (number : Nat) : List (List Char) → List Line
  | [] => []
  | [last] => if last.all isSpace then [] else [ofText number last false]
  | text :: rest => ofText number text true :: ofTexts (number + 1) rest

def readAll (source : List Char) : List Line := ofTexts 1 (Text.splitAt '\n' source)

/-- Cuts a text at a column; a tab that reaches further leaves spaces. What precedes the content
counts as blank. -/
def cutFrom (width base shift column index : Nat) : List Char → List Char
  | [] => List.replicate (column - width) ' '
  | c :: cs =>
      if width ≤ column then List.replicate (column - width) ' ' ++ c :: cs
      else if isSpace c then
        cutFrom width base shift (nextColumn c (base + column) - base) (index + 1) cs
      else if index < shift then cutFrom width base shift (column + 1) (index + 1) cs
      else c :: cs

/-- The text without indentation up to a width. -/
def cut (line : Line) (width : Nat) : List Char := cutFrom width line.base line.shift 0 0 line.text

/-- The text of lines without indentation up to a width, with their line feeds. -/
def textOf (width : Nat) (lines : List Line) : List Char :=
  lines.flatMap fun line => line.cut width ++ if line.ended then ['\n'] else []

end Line

end DocSuite.Markdown
