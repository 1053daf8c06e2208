import DocSuite.Markdown.Address
import DocSuite.Markdown.Entity
import DocSuite.Markdown.Html
import DocSuite.Markdown.Line
import DocSuite.Markdown.Link

/-!
Elements that are found without looking at others: code, addresses, HTML and character references.
Places count the characters of the paragraph; a limit is where the label that is being read ends.
-/
namespace DocSuite.Markdown.Reading

open DocSuite.Text

/-- What reading elements depends on: the text of the paragraph and the labels with a definition. -/
structure Paragraph where
  text : List Char
  isDefined : List Char → Bool
  hasDefinitions : Bool

/-- What was learnt about places in the text. -/
structure Memory where
  /-- Where elements end that were passed over. -/
  ends : List (Nat × Nat) := []
  /-- The last places of runs of backticks by their size. -/
  backticks : List (Nat × Nat) := []
  /-- No run of backticks is left to be found. -/
  isScanned : Bool := false

/-- Characters at which an element other than text may start. -/
def isSignal (c : Char) : Bool := "\n!#$%&*+-:<=>@[\\]^_`\x7b\x7d~".toList.contains c

/-- Skips characters from a place up to a limit. -/
def skipWhile (p : Char → Bool) (text : List Char) (limit place : Nat) : Nat :=
  place + ((text.drop place).take (limit - place) |>.takeWhile p).length

def isSpaceOrBreak (c : Char) : Bool := isSpace c || c == '\n'

/-- The place and the end of the next run of backticks of a size; the sizes of the others are noted
down. Each step of the fuel finds a run. -/
def closingRun? (text : List Char) (limit size : Nat) : (fuel place : Nat) →
    List (Nat × Nat) → Option (Nat × Nat) × List (Nat × Nat)
  | 0, _, seen => (none, seen)
  | fuel + 1, place, seen =>
      let start := skipWhile (· != '`') text text.length place
      if text.length ≤ start then (none, seen)
      else
        let stop := skipWhile (· == '`') text limit (start + 1)
        if stop - start = size then (some (start, stop), seen)
        else closingRun? text limit size fuel stop ((stop - start, start) :: seen)

/-- What a run of backticks starts: code, with its text and its end, or plain text. -/
def codeAt (text : List Char) (limit place : Nat) (memory : Memory) :
    Option (List Char) × Nat × Memory :=
  let open_ := skipWhile (· == '`') text limit (place + 1)
  let size := open_ - place
  if memory.isScanned && (memory.backticks.lookup size).getD 0 ≤ place then (none, open_, memory)
  else
    match closingRun? text limit size (text.length + 1) open_ memory.backticks with
    | (some (start, stop), backticks) =>
        (some ((text.drop open_).take (start - open_)), stop, { memory with backticks })
    | (none, backticks) => (none, open_, { memory with backticks, isScanned := true })

/-- The text of code: line breaks are spaces, and one space on each side is left out unless there
is nothing else. -/
def codeText (cs : List Char) : List Char :=
  let cs := cs.map fun c => if c = '\n' then ' ' else c
  if cs.head? = some ' ' ∧ cs.getLast? = some ' ' ∧ !cs.all isBlank then (cs.drop 1).dropLast
  else cs

def isMailChar (c : Char) : Bool :=
  isAsciiLetter c || isDigit c || ".!#$%&'*+/=?^_`\x7b|\x7d~-".toList.contains c

/-- A part of a mail domain between dots. -/
def isDomainLabel (cs : List Char) : Bool :=
  let isEnd (c : Char) : Bool := isAsciiLetter c || isDigit c
  cs.length ≤ 63 && cs.head?.any isEnd && cs.getLast?.any isEnd &&
    cs.all fun c => isEnd c || c == '-'

def isMailAddress (cs : List Char) : Bool :=
  let name := cs.takeWhile isMailChar
  match cs.dropWhile isMailChar with
  | '@' :: domain => !name.isEmpty && (splitAt '.' domain).all isDomainLabel
  | _ => false

/-- A scheme of two to thirty-two characters, a colon, and no brackets or blanks. -/
def isAbsolute (cs : List Char) : Bool :=
  let isPart (c : Char) : Bool :=
    isAsciiLetter c || isDigit c || c == '+' || c == '.' || c == '-'
  let scheme := cs.takeWhile isPart
  match cs.dropWhile isPart with
  | ':' :: rest =>
      scheme.head?.any isAsciiLetter && 2 ≤ scheme.length && scheme.length ≤ 32 &&
        rest.all fun c => ' ' < c && c != '<' && c != '>'
  | _ => false

/-- An address between angle brackets, from behind the first of them. One line feed may stand in
front of the closing bracket. -/
def address? (text : List Char) (limit place : Nat) : Option (List Char) :=
  let window := (text.drop (place + 1)).take (limit - (place + 1))
  let inner := window.takeWhile fun c => c != '<' && c != '>'
  match window.drop inner.length with
  | '>' :: _ =>
      let address := if inner.getLast? = some '\n' then inner.dropLast else inner
      let isLink := isAbsolute address && isAllowed address || isMailAddress address
      if isLink then some inner else none
  | _ => none

/-- The end of a piece of HTML. -/
def htmlEnd? (text : List Char) (limit place : Nat) : Option Nat :=
  let cs := text.drop place
  if limit ≤ place + 2 then none
  else (Html.piece? cs).map fun rest => place + (cs.length - rest.length)

/-- The characters of a reference and its end. -/
def referenceAt? (text : List Char) (limit place : Nat) : Option (List Char × Nat) :=
  if limit ≤ place + 1 then none
  else
    let cs := text.drop (place + 1)
    (reference? cs).map fun (image, rest) => (image, place + 1 + (cs.length - rest.length))

end DocSuite.Markdown.Reading
