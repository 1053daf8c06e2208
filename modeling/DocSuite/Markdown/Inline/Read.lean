import DocSuite.Markdown.Emphasis
import DocSuite.Markdown.Inline.Basic
import DocSuite.Markdown.Inline.Skip

/-!
Reading the elements of a paragraph from left to right: at each place the first element that fits
is taken. Marks are paired when all elements are known. Main statement: elements stand in the order
of the text.
-/
namespace DocSuite.Markdown

open DocSuite.Text

namespace Reading

/-- The elements read so far, the last one first. -/
structure State where
  memory : Memory := {}
  /-- Text that is not an element yet, the last character first. -/
  pending : List Char := []
  tokens : List Inline := []
  /-- The delimiters of the link that is being read, the last one first. -/
  delimiters : List Delimiter := []
  /-- The delimiters of the links that were read. -/
  groups : List (List Delimiter) := []

namespace State

def flush (state : State) : State :=
  if state.pending.isEmpty then state
  else { state with tokens := .text state.pending.reverse :: state.tokens, pending := [] }

def push (state : State) (token : Inline) : State :=
  let state := state.flush
  { state with tokens := token :: state.tokens }

def add (state : State) (cs : List Char) : State :=
  { state with pending := cs.reverse ++ state.pending }

/-- A run of marks, each a token of its own. -/
def pushMarks (state : State) (mark : Char) (opens closes : Bool) (run : Nat) :
    (count : Nat) → State
  | 0 => state
  | count + 1 =>
      let state := (pushMarks state mark opens closes run count).push (.mark mark)
      let delimiter : Delimiter :=
        { mark, run, token := state.tokens.length - 1, opens, closes }
      { state with delimiters := delimiter :: state.delimiters }

/-- A line break; the spaces in front of it are left out. -/
def breakLine (state : State) : State :=
  { state with pending := state.pending.dropWhile (· == ' ') }.push .lineBreak

end State

/-- What reading the inside of a link and of an image takes. -/
structure Nested where
  link : (limit place : Nat) → State → State
  image : List Char → List Inline

/-- Reads the element at a place; gives its end, if there is one. -/
def element? (nested : Nested) (skip : Skip) (paragraph : Paragraph) (limit place : Nat)
    (state : State) : Option Nat × State :=
  let text := paragraph.text
  match text.drop place with
  | [] => (none, state)
  | c :: cs =>
      if !isSignal c then
        let stop := skipWhile (fun c => !isSignal c) text limit place
        (some stop, state.add ((text.drop place).take (stop - place)))
      else
        match c with
        | '\n' => (some (skipWhile isSpace text limit (place + 1)), state.breakLine)
        | '\\' =>
            if limit ≤ place + 1 then (none, state)
            else
              match cs with
              | [] => (none, state)
              | '\n' :: _ =>
                  (some (skipWhile isSpace text limit (place + 2)), state.push .lineBreak)
              | d :: _ =>
                  let image := if isAsciiPunctuation d then [d] else ['\\', d]
                  (some (place + 2), state.push (.special image))
        | '`' =>
            let (code, stop, memory) := codeAt text limit place state.memory
            let state := { state with memory }
            match code with
            | some code => (some stop, state.push (.code (codeText code)))
            | none => (some stop, state.add ((text.drop place).take (stop - place)))
        | '*' | '_' =>
            let stop := skipWhile (· == c) text limit place
            let before := if place = 0 then ' ' else text.getD (place - 1) ' '
            let after := if stop < limit then text.getD stop ' ' else ' '
            let (opens, closes) := flanks (c == '*') before after
            (some stop, state.pushMarks c opens closes (stop - place) (stop - place))
        | '[' =>
            let (link, memory) := linkAt? skip paragraph limit place state.memory
            let state := { state with memory }
            match link with
            | none => (none, state)
            | some link =>
                let inner := nested.link link.stop link.start
                  { state.push .edge with delimiters := [] }
                let inner := inner.flush
                (some link.behind,
                  { inner.push .edge with
                    delimiters := state.delimiters, groups := inner.delimiters :: inner.groups })
        | '!' =>
            let (image, memory) := imageAt? skip paragraph limit place state.memory
            let state := { state with memory }
            match image with
            | none => (none, state)
            | some image =>
                let label := (text.drop image.start).take (image.stop - image.start)
                (some image.behind, state.push (.image (nested.image label)))
        | '<' =>
            match address? text limit place with
            | some inner =>
                let state := ((state.push .edge).push (.text (Address.shownText inner))).push .edge
                (some (place + inner.length + 2), state)
            | none =>
                match htmlEnd? text limit place with
                | some stop =>
                    (some stop, state.push (.html ((text.drop place).take (stop - place))))
                | none => (none, state)
        | '&' =>
            match referenceAt? text limit place with
            | some (image, stop) => (some stop, state.push (.special image))
            | none => (none, state)
        | _ => (none, state)

/-- Reads elements from a place up to a limit. Each step of the fuel reads one. -/
def readElements (element? : Nat → State → Option Nat × State) (text : List Char) (limit : Nat) :
    (fuel place : Nat) → State → State
  | 0, _, state => state.flush
  | fuel + 1, place, state =>
      if limit ≤ place then state.flush
      else
        match element? place state with
        | (some stop, state) => readElements element? text limit fuel stop state
        | (none, state) =>
            readElements element? text limit fuel (place + 1) (state.add [text.getD place ' '])

/-- Reads elements between two places; links inside may nest to a depth. -/
def readRange (image : List Char → List Inline) (paragraph : Paragraph) :
    (room limit place : Nat) → State → State
  | 0, limit, place, state =>
      (state.add ((paragraph.text.drop place).take (limit - place))).flush
  | room + 1, limit, place, state =>
      let nested : Nested := ⟨readRange image paragraph room, image⟩
      readElements (element? nested (skipElement paragraph limit (room + 1)) paragraph limit)
        paragraph.text limit (limit - place + 1) place state

/-- Marks in pairs become the edges of emphasis, the others are text. -/
def resolveMarks (paired : List Nat) : (place : Nat) → List Inline → List Inline
  | _, [] => []
  | place, .mark c :: rest =>
      (if paired.contains place then .edge else .text [c]) :: resolveMarks paired (place + 1) rest
  | place, token :: rest => token :: resolveMarks paired (place + 1) rest

/-- Elements nest no deeper. -/
def maxDepth : Nat := 20

/-- The elements of a text. Each step of the fuel reads the text of an image. -/
def readText (isDefined : List Char → Bool) (hasDefinitions : Bool) :
    (fuel : Nat) → List Char → List Inline
  | 0, _ => []
  | fuel + 1, text =>
      let paragraph : Paragraph := { text, isDefined, hasDefinitions }
      let inside := readText isDefined hasDefinitions fuel
      let state := readRange inside paragraph maxDepth text.length 0 {}
      let groups := state.delimiters :: state.groups
      let paired := groups.flatMap fun group => Delimiter.pairedTokens group.reverse
      resolveMarks paired 0 state.tokens.reverse

end Reading

/-- The elements of a paragraph, given the labels that are defined. -/
def Inline.read (labels : List (List Char)) (text : List Char) : List Inline :=
  Reading.readText labels.contains (!labels.isEmpty) (text.length + 1) text

/-- The elements of a paragraph with its texts joined. -/
def Inline.parse (labels : List (List Char)) (text : List Char) : List Inline :=
  Inline.join (Inline.read labels text)

end DocSuite.Markdown
