import DocSuite.Markdown.Definition

/-!
From lines to the tree of blocks. Each block takes up the lines from its first on; quotes and list
items are read again inside, down to a limit of their nesting. Main statement: a fence holds the
lines behind its opening one, less the indentation of that.
-/
namespace DocSuite.Markdown

/-- The blocks at the start of some lines, with the labels that they define and the number of lines
that they take up. -/
structure Outline where
  blocks : List Block := []
  labels : List (List Char) := []
  size : Nat := 0
  deriving Repr

namespace Outline

def ofBlock (block : Block) (size : Nat) : Outline := { blocks := [block], size }

/-- One outline behind another. -/
def append (a b : Outline) : Outline :=
  ⟨a.blocks ++ b.blocks, a.labels ++ b.labels, a.size + b.size⟩

end Outline

/-- How the lines inside a quote or a list item are read. -/
abbrev Reader := Frame → List Line → Outline

/-- The number of lines of code; empty lines at the end do not belong to it. -/
def codeSize (frame : Frame) : (seen size : Nat) → List Line → Nat
  | _, size, [] => size
  | seen, size, line :: lines =>
      if line.isEmpty then codeSize frame (seen + 1) size lines
      else if line.isCode frame then codeSize frame (seen + 1) (seen + 1) lines
      else size

/-- The number of lines in a fence, and whether a closing line follows. -/
def fenceSize (frame : Frame) (fence : FenceStart) : (size : Nat) → List Line → Nat × Bool
  | size, [] => (size, false)
  | size, line :: lines =>
      if line.isEmpty then
        if line.ended then fenceSize frame fence (size + 1) lines else (size, false)
      else if line.isOutside frame then (size, false)
      else if line.closesFence frame fence then (size, true)
      else fenceSize frame fence (size + 1) lines

def readFence (frame : Frame) (line : Line) (others : List Line) (fence : FenceStart) : Outline :=
  let (size, isClosed) := fenceSize frame fence 0 others
  let content := Line.textOf line.indent.toNat (others.take size)
  .ofBlock (.fence fence.info content line.number) (1 + size + if isClosed then 1 else 0)

/-- The lines of a quote behind its first one, without their markers. A line without a marker may
go on with a paragraph. -/
def quoteLines (frame : Frame) : (isLastEmpty : Bool) → List Line → List Line
  | _, [] => []
  | isLastEmpty, line :: lines =>
      if line.isEmpty then []
      else if line.isQuote && !line.isOutside frame then
        let line := line.unquote
        line :: quoteLines frame line.isEmpty lines
      else if isLastEmpty || line.interrupts frame .quote then []
      else { line with indent := -1 } :: quoteLines frame false lines

def readQuote (inside : Reader) (frame : Frame) (line : Line) (others : List Line) : Outline :=
  let first := line.unquote
  let outline := inside { frame with indent := 0 } (first :: quoteLines frame first.isEmpty others)
  { outline with blocks := [.quote outline.blocks] }

/-- The items of a list, from a line with a marker on. Each step of the fuel reads one. -/
def readItems (inside : Reader) (frame : Frame) (marker : ListMarker) :
    (fuel : Nat) → List Line → List (List Block) × Outline
  | 0, _ => ([], {})
  | _, [] => ([], {})
  | fuel + 1, line :: others =>
      let (first, indent) := line.enterItem marker
      let outline :=
        if first.isEmpty && others.head?.all Line.isEmpty then
          { size := 1 + (others.take 1).length }
        else inside { indent, list := some frame.indent } (first :: others)
      let item := outline.blocks
      let outline := { outline with blocks := [] }
      match (line :: others).drop outline.size with
      | [] => ([item], outline)
      | next :: rest =>
          let following := if marker.number.isSome then next.ordered? else next.bullet?
          match following with
          | none => ([item], outline)
          | some following =>
              if next.isOutside frame || next.isCode frame || next.interrupts frame .list ||
                  following.mark != marker.mark then
                ([item], outline)
              else
                let (items, later) := readItems inside frame following fuel (next :: rest)
                (item :: items, outline.append later)

def readList (inside : Reader) (frame : Frame) (marker : ListMarker) (lines : List Line) :
    Outline :=
  let (items, outline) := readItems inside frame marker lines.length lines
  { outline with blocks := [.list items] }

/-- The number of lines of a block of HTML behind its first one. -/
def htmlSize (frame : Frame) (ending : Html.Ending) : (size : Nat) → List Line → Nat
  | size, [] => size
  | size, line :: lines =>
      if line.isOutside frame then size
      else if ending.isAt line.content then if line.isEmpty then size else size + 1
      else htmlSize frame ending (size + 1) lines

def readHtml (frame : Frame) (line : Line) (others : List Line) (start : Html.BlockStart) :
    Outline :=
  let isWhole := start.ending.isAt line.content
  .ofBlock .html (1 + if isWhole then 0 else htmlSize frame start.ending 0 others)

/-- Whether a line goes on with the text before it, whatever it holds. -/
def isLazy (frame : Frame) (line : Line) : Bool :=
  Line.codeIndent ≤ line.indent - frame.indent || line.indent < 0

/-- The number of lines that follow the first line of a heading up to its underline. -/
def underlined? (frame : Frame) : (size : Nat) → List Line → Option Nat
  | _, [] => none
  | size, line :: lines =>
      if line.isEmpty then none
      else if !line.isCode frame && !line.isOutside frame && line.isUnderline then some (size + 1)
      else if !isLazy frame line && line.interrupts frame .paragraph then none
      else underlined? frame (size + 1) lines

/-- The lines that go on with a paragraph. -/
def paragraphLines (frame : Frame) : List Line → List Line
  | [] => []
  | line :: lines =>
      if line.isEmpty || (!isLazy frame line && line.interrupts frame .paragraph) then []
      else line :: paragraphLines frame lines

def readParagraph (frame : Frame) (line : Line) (others : List Line) : Outline :=
  let lines := line :: paragraphLines frame others
  .ofBlock (.paragraph (Text.trim (Line.textOf frame.indent lines))) lines.length

/-- The block that a line starts. -/
def readBlock (quoted listed : Reader) (frame : Frame) (line : Line) (others : List Line) :
    Outline :=
  if line.isCode frame then .ofBlock .code (codeSize frame 1 1 others)
  else
    match line.fence? with
    | some fence => readFence frame line others fence
    | none =>
        if line.isQuote then readQuote quoted frame line others
        else if line.isRule then .ofBlock .rule 1
        else
          match line.marker? with
          | some marker => readList listed frame marker (line :: others)
          | none =>
              match definition? frame line others with
              | some (label, size) => { labels := [label], size }
              | none =>
                  match Html.blockStart? line.content with
                  | some start => readHtml frame line others start
                  | none =>
                      if line.isHeading then .ofBlock .heading 1
                      else
                        match underlined? frame 0 others with
                        | some size => .ofBlock .heading (1 + size)
                        | none => readParagraph frame line others

/-- The blocks of lines, up to the first line that is outside. Each step of the fuel reads one. -/
def readBlocks (quoted listed : Reader) (frame : Frame) : (fuel : Nat) → List Line → Outline
  | 0, _ => {}
  | fuel + 1, lines =>
      let blank := (lines.takeWhile Line.isEmpty).length
      match lines.drop blank with
      | [] => { size := blank }
      | line :: others =>
          if line.isOutside frame then { size := blank }
          else
            let outline := readBlock quoted listed frame line others
            let outline := { outline with size := blank + outline.size }
            outline.append (readBlocks quoted listed frame fuel (lines.drop outline.size))

/-- Blocks nested too deeply are passed over. -/
def skipBlocks : Reader := fun frame lines =>
  let blank := (lines.takeWhile Line.isEmpty).length
  match lines.drop blank with
  | [] => { size := blank }
  | line :: _ => { size := if line.isOutside frame then blank else lines.length }

/-- Reads blocks that may hold others to a depth. An item of a list is two levels below it. -/
def readNested : (room : Nat) → Reader
  | 0 => skipBlocks
  | 1 => fun frame lines => readBlocks skipBlocks skipBlocks frame lines.length lines
  | room + 2 => fun frame lines =>
      readBlocks (readNested (room + 1)) (readNested room) frame lines.length lines

/-- Blocks and inline elements nest no deeper. -/
def maxNesting : Nat := 20

/-- The outline of a document. -/
def outline (source : List Char) : Outline := readNested maxNesting {} (Line.readAll source)

end DocSuite.Markdown
