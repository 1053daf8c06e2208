import DocSuite.Syntax.Basic
import DocSuite.Syntax.Fault
import DocSuite.Syntax.Terminal

/-!
Tokens of the text of a sample, with what the report of a fault needs to know about the text:
its lines, and which of them were in view when a token was read.
-/
namespace DocSuite.Syntax

/-- A text that is read line by line, and the number of its first line. -/
structure Source where
  lines : List (List Char)
  first : Nat := 1
  deriving Repr

namespace Source

/-- Line breaks are line feeds, and the last line ends with one. A text that ends with a
carriage return and a line feed has an empty line behind it. -/
def normalize : List Char → List Char
  | [] => ['\n']
  | ['\n'] => ['\n']
  | ['\r'] => ['\n']
  | ['\r', '\n'] => ['\n', '\n']
  | '\r' :: '\n' :: cs => '\n' :: normalize cs
  | '\r' :: cs => '\n' :: normalize cs
  | [c] => [c, '\n']
  | c :: cs => c :: normalize cs

def ofText (first : Nat) (text : List Char) : Source := ⟨Text.splitAt '\n' text, first⟩

/-- A line of the text, without its end. -/
def line (source : Source) (number : Nat) : List Char :=
  (source.lines[number - source.first]?).getD []

/-- Lines of the text, each with its end. -/
def linesBetween (source : Source) (first last : Nat) : List Char :=
  ((List.range (last + 1 - first)).map fun i => source.line (first + i) ++ ['\n']).flatten

end Source

/-- Why no further token can be read. -/
structure TokenFault where
  fault : Fault
  line : Nat
  /-- The report shows one line, and it is made where the token is read. -/
  direct : Bool
  /-- The innermost bracket that is still open, and its line. -/
  opening : Option (Char × Nat)
  deriving Repr

inductive TokenKind
  | name
  | number
  | string
  | terminal (terminal : Terminal)
  /-- An operator that the grammar does not have. -/
  | other
  | newline
  | indent
  | dedent
  | finish
  | failure (reason : TokenFault)
  deriving Repr

structure Token where
  kind : TokenKind
  text : List Char := []
  span : Span
  /-- How many brackets are open behind the token. -/
  depth : Nat := 0
  /-- The first of the lines in view; the last one is the line on which the token ends. -/
  shownFrom : Nat := 1
  deriving Repr

namespace TokenKind

/-- Ends and indentation: tokens without text of their own. -/
def isLayout : TokenKind → Bool
  | newline | indent | dedent | finish => true
  | _ => false

def isFailure : TokenKind → Bool
  | failure _ => true
  | _ => false

end TokenKind

namespace Token

def isLayout (token : Token) : Bool := token.kind.isLayout

def isName (token : Token) : Bool :=
  match token.kind with
  | .name => true
  | _ => false

def isNumber (token : Token) : Bool :=
  match token.kind with
  | .number => true
  | _ => false

def isString (token : Token) : Bool :=
  match token.kind with
  | .string => true
  | _ => false

def isTerminal (token : Token) (t : Terminal) : Bool :=
  match token.kind with
  | .terminal u => t = u
  | _ => false

def line (token : Token) : Nat := token.span.start.line

end Token

/-- The report of a fault: the lines in view, if the reader has not come further than the line of
the fault, else that line alone. -/
def Source.report (source : Source) (shownFrom reached : Nat) (fault : Fault) (line : Nat) :
    SyntaxFault :=
  let text :=
    if reached ≤ line then source.linesBetween shownFrom reached else source.line line
  ⟨fault, line, String.ofList text⟩

end DocSuite.Syntax
