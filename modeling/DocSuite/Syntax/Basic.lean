import DocSuite.Decimal.Binary64

/-!
Syntax trees of samples. A compound statement is a head with its blocks in order, so that one
recursion reaches every block, whatever the statement. Each expression keeps the line on which
it starts, for messages; each statement keeps where it stands, the comments that trail it and
whether it is a check that was put in.
-/
namespace DocSuite.Syntax

open DocSuite.Decimal (Binary64)

/-- The value of a literal. A text is a list of code points, since escapes can name surrogates. -/
inductive Literal
  | none
  | true
  | false
  | ellipsis
  | int (value : Nat)
  | float (value : Binary64)
  | imaginary (value : Binary64)
  /-- `marked`: written with the mark `u`. -/
  | text (codes : List Nat) (marked : Bool)
  | bytes (values : List Nat)
  deriving DecidableEq, Repr

inductive Connective
  | and
  | or
  deriving DecidableEq, Repr

inductive BinaryOp
  | add | sub | mul | matMul | div | mod | leftShift | rightShift
  | bitOr | bitXor | bitAnd | floorDiv | pow
  deriving DecidableEq, Repr

inductive UnaryOp
  | invert | not | plus | minus
  deriving DecidableEq, Repr

inductive CompareOp
  | eq | notEq | lt | ltE | gt | gtE | is | isNot | in | notIn
  deriving DecidableEq, Repr

/-- What encloses a comprehension with one element. -/
inductive Bracket
  | list | set | generator
  deriving DecidableEq, Repr

mutual

/-- An expression and the line on which it starts. -/
inductive Expr
  | mk (line : Nat) (form : Form)

inductive Form
  | connect (op : Connective) (values : List Expr)
  | named (target value : Expr)
  | binary (left : Expr) (op : BinaryOp) (right : Expr)
  | unary (op : UnaryOp) (operand : Expr)
  | lambda (params : Params) (body : Expr)
  | conditional (test body orelse : Expr)
  | dict (entries : List Entry)
  | set (elements : List Expr)
  | comprehension (bracket : Bracket) (element : Expr) (generators : List Generator)
  | dictComprehension (key value : Expr) (generators : List Generator)
  | await (value : Expr)
  | yield (value : Option Expr)
  | yieldFrom (value : Expr)
  | compare (left : Expr) (rest : List Comparison)
  | call (function : Expr) (args : List Expr) (keywords : List Keyword)
  | interpolated (pieces : List Piece)
  | literal (value : Literal)
  | attribute (value : Expr) (name : String)
  | subscript (value index : Expr)
  | starred (value : Expr)
  | name (id : String)
  | list (elements : List Expr)
  | tuple (elements : List Expr)
  | slice (lower upper step : Option Expr)

/-- `key: value`, or `**value`. -/
inductive Entry
  | mk (key : Option Expr) (value : Expr)

/-- `for target in source if …`. -/
inductive Generator
  | mk (isAsync : Bool) (target source : Expr) (conditions : List Expr)

inductive Comparison
  | mk (op : CompareOp) (right : Expr)

/-- `name=value`, or `**value`. -/
inductive Keyword
  | mk (name : Option String) (value : Expr)

/-- A part of an interpolated string: text, or a field with its conversion and format. -/
inductive Piece
  | text (codes : List Nat)
  | field (value : Expr) (conversion : Option Char) (format : Option (List Piece))

/-- A parameter with its type hint and default. -/
inductive Param
  | mk (name : String) (hint : Option Expr) (default : Option Expr)

/-- Parameters by kind. -/
inductive Params
  | mk (positional plain : List Param) (rest : Option Param) (keywordOnly : List Param)
      (keywordRest : Option Param)

end

instance : Inhabited Expr := ⟨.mk 0 (.literal .none)⟩

def Expr.line : Expr → Nat
  | ⟨line, _⟩ => line

def Expr.form : Expr → Form
  | ⟨_, form⟩ => form

def Params.empty : Params := ⟨[], [], none, [], none⟩

/-- What a `case` accepts. -/
inductive Pattern
  | value (value : Expr)
  | singleton (value : Literal)
  | sequence (patterns : List Pattern)
  | star (name : Option String)
  | mapping (keys : List Expr) (patterns : List Pattern) (rest : Option String)
  | construct (type : Expr) (positional : List Pattern) (names : List String)
      (named : List Pattern)
  /-- Matches all, or what the pattern matches, and binds a name. -/
  | capture (pattern : Option Pattern) (name : Option String)
  | either (patterns : List Pattern)

/-- A place in a text: line from one, column from zero. -/
structure Position where
  line : Nat
  column : Nat
  deriving DecidableEq, Repr, Inhabited

/-- Where a statement starts and ends. -/
structure Span where
  start : Position
  stop : Position
  deriving DecidableEq, Repr, Inhabited

/-- A comment; its text excludes the leading hash. -/
structure Comment where
  text : String
  line : Nat
  column : Nat
  deriving DecidableEq, Repr, Inhabited

/-- What a statement node carries beside its form. -/
structure Site where
  /-- Columns count the bytes of the UTF-8 encoding. -/
  span : Span := default
  /-- The comments that trail the statement, in the order of the source. -/
  comments : List Comment := []
  /-- The statement belongs to a check that was put in, and is left as it is. -/
  recorded : Bool := false
  deriving DecidableEq, Repr, Inhabited

/-- A name in an import statement, with the name it is bound to. -/
structure Alias where
  name : String
  rename : Option String
  deriving DecidableEq, Repr

/-- Statements without blocks. -/
inductive Simple
  | expr (value : Expr)
  | assign (targets : List Expr) (value : Expr)
  | augment (target : Expr) (op : BinaryOp) (value : Expr)
  /-- `bare`: the target is a name that stands without parentheses. -/
  | annotate (target hint : Expr) (value : Option Expr) (bare : Bool)
  | ret (value : Option Expr)
  | raise (exception cause : Option Expr)
  | delete (targets : List Expr)
  | assert (test : Expr) (message : Option Expr)
  | global (names : List String)
  | nonlocal (names : List String)
  | pass
  | break
  | continue
  | importModules (names : List Alias)
  | importFrom (source : Option String) (names : List Alias) (level : Nat)

/-- What precedes the blocks of a compound statement. -/
inductive Head
  | function (isAsync : Bool) (name : String) (params : Params) (decorators : List Expr)
      (returns : Option Expr)
  | classDef (name : String) (bases : List Expr) (keywords : List Keyword)
      (decorators : List Expr)
  | ifThen (test : Expr)
  | forLoop (isAsync : Bool) (target source : Expr)
  | whileLoop (test : Expr)
  | withItems (isAsync : Bool) (items : List (Expr × Option Expr))
  | matchOn (subject : Expr)
  /-- `star`: its handlers take groups of exceptions. -/
  | tryBlock (star : Bool)

/-- What introduces a block. -/
inductive Label
  | body
  | orelse
  | finalbody
  | handler (type : Option Expr) (name : Option String)
  | case (pattern : Pattern) (guard : Option Expr)

mutual

inductive Stmt
  | simple (site : Site) (form : Simple)
  | compound (site : Site) (head : Head) (blocks : List Block)

/-- A block of a compound statement. -/
inductive Block
  | mk (label : Label) (body : List Stmt)

end

instance : Inhabited Stmt := ⟨.simple default .pass⟩

namespace Stmt

def site : Stmt → Site
  | simple site _ => site
  | compound site _ _ => site

def withSite (site : Site) : Stmt → Stmt
  | simple _ form => simple site form
  | compound _ head blocks => compound site head blocks

/-- A `pass` that stands nowhere in a source. -/
def pass : Stmt := simple {} .pass

end Stmt

/-- A text as a literal. -/
def Literal.ofString (s : String) : Literal := .text (s.toList.map Char.toNat) Bool.false

end DocSuite.Syntax
