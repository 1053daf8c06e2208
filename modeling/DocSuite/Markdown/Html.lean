import DocSuite.Text.Blank
import DocSuite.Text.Identifier

/-!
HTML in documents: tags, comments and instructions inside a paragraph, and the starts of blocks.
Main statement: a tag ends behind its closing bracket, and its attributes may hold brackets only
between quotes.
-/
namespace DocSuite.Markdown.Html

open DocSuite.Text

def isNameChar (c : Char) : Bool := isAsciiLetter c || isDigit c || c == '-'

def isAttributeStart (c : Char) : Bool := isAsciiLetter c || c == '_' || c == ':'

def isAttributeChar (c : Char) : Bool :=
  isAttributeStart c || isDigit c || c == '.' || c == '-'

/-- Characters of a value without quotes. -/
def isBareChar (c : Char) : Bool := ' ' < c && !"\"'=<>`".toList.contains c

/-- What follows the next occurrence of a text. -/
def behind? (mark : List Char) : List Char → Option (List Char)
  | [] => if mark.isEmpty then some [] else none
  | c :: cs =>
      if mark.isPrefixOf (c :: cs) then some ((c :: cs).drop mark.length) else behind? mark cs

/-- What can follow a value without quotes. It ends where its characters end; as some of them are
blanks too, it may also end in front of one of those. -/
def bareRests : List Char → List (List Char)
  | [] => [[]]
  | c :: cs =>
      if isBareChar c then bareRests cs ++ if isBlank c then [c :: cs] else [] else [c :: cs]

/-- What can follow a value. -/
def valueRests : List Char → List (List Char)
  | '"' :: cs => (behind? ['"'] cs).toList
  | '\'' :: cs => (behind? ['\''] cs).toList
  | c :: cs => if isBareChar c then bareRests cs else []
  | [] => []

/-- The end of an opening tag behind its attributes. -/
def closing? (cs : List Char) : Option (List Char) :=
  match trimLeft cs with
  | '/' :: '>' :: rest => some rest
  | '>' :: rest => some rest
  | _ => none

/-- What follows an opening tag, from the attributes on. Each step of the fuel reads one. -/
def attributesRest? : (fuel : Nat) → List Char → Option (List Char)
  | 0, cs => closing? cs
  | fuel + 1, cs =>
      let text := trimLeft cs
      match text with
      | c :: rest =>
          if isAttributeStart c && text.length < cs.length then
            let behindName := rest.dropWhile isAttributeChar
            let withValue := match trimLeft behindName with
              | '=' :: value => valueRests (trimLeft value)
              | _ => []
            ((withValue ++ [behindName]).findSome? (attributesRest? fuel)).or (closing? cs)
          else closing? cs
      | [] => none

/-- What follows an opening tag. -/
def openTag? : List Char → Option (List Char)
  | '<' :: c :: cs =>
      if isAsciiLetter c then attributesRest? cs.length (cs.dropWhile isNameChar) else none
  | _ => none

/-- What follows a closing tag. -/
def closeTag? : List Char → Option (List Char)
  | '<' :: '/' :: c :: cs =>
      if isAsciiLetter c then
        match trimLeft (cs.dropWhile isNameChar) with
        | '>' :: rest => some rest
        | _ => none
      else none
  | _ => none

/-- What follows a comment, from its text on. Two hyphens that do not end the comment are read with
the character after them. -/
def commentRest? : List Char → Option (List Char)
  | '-' :: '-' :: '>' :: cs => some cs
  | '-' :: '-' :: _ :: cs => commentRest? cs
  | '-' :: '-' :: [] => none
  | '-' :: _ :: cs => commentRest? cs
  | '-' :: [] => none
  | _ :: cs => commentRest? cs
  | [] => none

/-- What follows a comment, an instruction, a declaration or a section of character data. -/
def markup? : List Char → Option (List Char)
  | '<' :: '!' :: '-' :: '-' :: '>' :: cs => some cs
  | '<' :: '!' :: '-' :: '-' :: '-' :: '>' :: cs => some cs
  | '<' :: '!' :: '-' :: '-' :: cs => commentRest? cs
  | '<' :: '?' :: cs => behind? ['?', '>'] cs
  | '<' :: '!' :: '[' :: 'C' :: 'D' :: 'A' :: 'T' :: 'A' :: '[' :: cs => behind? [']', ']', '>'] cs
  | '<' :: '!' :: c :: cs => if isAsciiLetter c then behind? ['>'] cs else none
  | _ => none

/-- What follows the piece of HTML at the start of a text. -/
def piece? (cs : List Char) : Option (List Char) :=
  ((openTag? cs).or (closeTag? cs)).or (markup? cs)

/-! ### Blocks -/

/-- How a block of HTML ends. -/
inductive Ending
  /-- At a line that holds one of the texts, whatever the case of its letters. -/
  | marks (texts : List (List Char))
  | emptyLine
  deriving DecidableEq, Repr

structure BlockStart where
  ending : Ending
  /-- It can follow a paragraph without an empty line. -/
  interrupts : Bool
  deriving DecidableEq, Repr

/-- The small letter that a character counts as where case does not matter. -/
def foldLetter (c : Char) : Char :=
  if c = 'ſ' then 's' else if c = 'ı' ∨ c = 'İ' then 'i' else if c = 'K' then 'k' else c.toLower

def rawNames : List String := ["script", "pre", "style", "textarea"]

def blockNames : List String :=
  ["address", "article", "aside", "base", "basefont", "blockquote", "body", "caption", "center",
    "col", "colgroup", "dd", "details", "dialog", "dir", "div", "dl", "dt", "fieldset",
    "figcaption", "figure", "footer", "form", "frame", "frameset", "h1", "h2", "h3", "h4", "h5",
    "h6", "head", "header", "hr", "html", "iframe", "legend", "li", "link", "main", "menu",
    "menuitem", "nav", "noframes", "ol", "optgroup", "option", "p", "param", "search", "section",
    "summary", "table", "tbody", "td", "tfoot", "th", "thead", "title", "tr", "track", "ul"]

/-- What follows one of the names, whatever the case of its letters. A longer name comes before its
own start. -/
def afterNames (names : List String) (cs : List Char) : List (List Char) :=
  let folded := cs.map foldLetter
  names.filterMap fun name =>
    if name.toList.isPrefixOf folded then some (cs.drop name.toList.length) else none

def endsRawName : List Char → Bool
  | [] => true
  | c :: _ => isBlank c || c == '>'

def endsBlockName : List Char → Bool
  | '/' :: '>' :: _ => true
  | cs => endsRawName cs

/-- Whether a declaration starts behind the opening bracket. -/
def startsDeclaration : List Char → Bool
  | '!' :: c :: _ => 'A' ≤ c && c ≤ 'Z'
  | _ => false

/-- The block of HTML that a line starts. -/
def blockStart? (line : List Char) : Option BlockStart :=
  match line with
  | '<' :: cs =>
      let named := match cs with
        | '/' :: name => name
        | name => name
      if (afterNames rawNames cs).any endsRawName then
        some ⟨.marks (rawNames.map fun name => "</".toList ++ name.toList ++ ['>']), true⟩
      else if "!--".toList.isPrefixOf cs then some ⟨.marks ["-->".toList], true⟩
      else if ['?'].isPrefixOf cs then some ⟨.marks ["?>".toList], true⟩
      else if startsDeclaration cs then
        some ⟨.marks [['>']], true⟩
      else if "![CDATA[".toList.isPrefixOf cs then some ⟨.marks ["]]>".toList], true⟩
      else if (afterNames blockNames named).any endsBlockName then some ⟨.emptyLine, true⟩
      else
        match (openTag? line).or (closeTag? line) with
        | some rest => if rest.all isBlank then some ⟨.emptyLine, false⟩ else none
        | none => none
  | _ => none

/-- Whether a line ends a block. -/
def Ending.isAt (ending : Ending) (line : List Char) : Bool :=
  match ending with
  | .emptyLine => line.isEmpty
  | .marks texts =>
      let folded := line.map foldLetter
      texts.any fun text => (behind? text folded).isSome

end DocSuite.Markdown.Html
