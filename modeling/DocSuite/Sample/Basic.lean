import DocSuite.Value

/-!
Samples: the code blocks of a document that are tests.
-/
namespace DocSuite

structure Sample where
  /-- The text of the paragraph right before the block. -/
  title : Option String
  /-- The language tag of the block. -/
  language : String
  source : String
  /-- The line of the opening fence in the document, counted from one. -/
  line : Option Int := none
  deriving DecidableEq, Repr

namespace Sample

/-- Cases without a title are called this. -/
def untitled : String := "works"

def caseTitle (sample : Sample) : String :=
  match sample.title with
  | some title => if title.isEmpty then untitled else title
  | none => untitled

/-- What an error about the sample says of it. -/
def context (sample : Sample) (index : Option Int) : List (String × Value) :=
  let title := match sample.title with
    | some title => if title.isEmpty then [] else [("sample", Value.text title)]
    | none => []
  let line := match sample.line with
    | some line => [("line", Value.int line)]
    | none => []
  let index := match index with
    | some index => [("index", Value.int index)]
    | none => []
  ("language", .text sample.language) :: title ++ line ++ index

end Sample

end DocSuite
