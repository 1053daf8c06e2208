import DocSuite.Markdown.Inline.Read
import DocSuite.Markdown.Structure
import DocSuite.Sample.Basic

/-!
The samples of a document: its fences whose first word is a language that is asked for, at any
depth, each with the text of the paragraph right before it as its title. Main statement: with fewer
languages, the samples are those of these languages among the samples with more.
-/
namespace DocSuite

open DocSuite.Text

namespace Markdown

/-- The text of a document with line feeds at the ends of its lines and without null characters. -/
def normalize : List Char → List Char
  | '\r' :: '\n' :: cs => '\n' :: normalize cs
  | '\r' :: cs => '\n' :: normalize cs
  | '\x00' :: cs => '\uFFFD' :: normalize cs
  | c :: cs => c :: normalize cs
  | [] => []

/-- A fence with what precedes it among its siblings. -/
structure Fence where
  before : Option Block
  info : List Char
  content : List Char
  line : Nat
  deriving Repr

mutual

/-- The fences in a block and in those inside it, in the order of the document. -/
def Block.fences (before : Option Block) : Block → List Fence
  | .fence info content line => [⟨before, info, content, line⟩]
  | .quote children => fencesOf none children
  | .list items => fencesOfItems items
  | _ => []

def fencesOf (before : Option Block) : List Block → List Fence
  | [] => []
  | block :: rest => block.fences before ++ fencesOf (some block) rest

def fencesOfItems : List (List Block) → List Fence
  | [] => []
  | item :: rest => fencesOf none item ++ fencesOfItems rest

end

/-- The first word of the text behind an opening fence. -/
def fenceLanguage (info : String) : String :=
  match words info.toList with
  | word :: _ => String.ofList word
  | [] => ""

/-- The text without one final colon. -/
def withoutColon (text : List Char) : List Char :=
  match text.reverse with
  | ':' :: cs => cs.reverse
  | _ => text

/-- The title that the paragraph before a fence gives it. -/
def Fence.title? (labels : List (List Char)) (fence : Fence) : Option (List Char) :=
  match fence.before with
  | some (.paragraph text) => some (withoutColon (Inline.flatten (Inline.parse labels text)))
  | _ => none

end Markdown

open DocSuite.Markdown

/-- The samples of a document in some languages. -/
def scan (source : String) (languages : List String) : List Sample :=
  let outline := Markdown.outline (normalize source.toList)
  (fencesOf none outline.blocks).filterMap fun fence =>
    let language := fenceLanguage (String.ofList fence.info)
    if languages.contains language then
      some
        { title := (fence.title? outline.labels).map String.ofList, language
          source := String.ofList fence.content, line := some fence.line }
    else none

end DocSuite
