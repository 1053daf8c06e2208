import DocSuite.Syntax.Basic
import DocSuite.Text.Blank
import DocSuite.Text.Quoted

/-!
The text of syntax trees: one spelling for each tree, with four columns of indentation and no
parentheses that the grammar does not need, apart from those around tuples and yields that
stand as values.
-/
namespace DocSuite.Syntax

open DocSuite.Text

/-- Why a tree has no text. -/
inductive PrintFault
  /-- A field of an interpolated string would need a backslash. -/
  | backslashInField
  /-- An integer has more than 4300 decimal digits. -/
  | hugeInteger
  deriving DecidableEq, Repr

def PrintFault.message : PrintFault → String
  | .backslashInField => "Unable to avoid backslash in f-string expression part"
  | .hugeInteger =>
      "Exceeds the limit (4300 digits) for integer string conversion; " ++
        "use sys.set_int_max_str_digits() to increase the limit"

abbrev Printed := Except PrintFault

/-! ### Quotes -/

/-- Whether a run of characters occurs in a text. -/
def occurs (run : List Char) : List Char → Bool
  | [] => run.isEmpty
  | c :: cs => run.isPrefixOf (c :: cs) || occurs run cs

def allQuotes : List (List Char) := [['\''], ['"'], ['"', '"', '"'], ['\'', '\'', '\'']]

def tripleQuotes : List (List Char) := [['"', '"', '"'], ['\'', '\'', '\'']]

/-- Escapes what does not show; line feeds and tabs only when asked to. -/
def escapeText (blanksToo : Bool) (text : List Nat) : List Char :=
  text.flatMap fun code =>
    if !blanksToo && (code = 10 || code = 9) then [Char.ofNat code]
    else if code = 92 || !isPrintable code then escapeCode code
    else [Char.ofNat code]

/-- The escaped text with the quotes that can enclose it, the best ones first. If none can, the
text takes the escapes of a plain literal and the first style with the quote of that one. -/
def encloseWith (styles : List (List Char)) (blanksToo : Bool) (text : List Nat) :
    List Char × List (List Char) :=
  let escaped := escapeText blanksToo text
  let fitting := styles.filter fun q =>
    (!escaped.contains '\n' || q.length = 3) && !occurs q escaped
  match fitting with
  | [] =>
      let literal := Quoted.ofCodes text
      let quote := literal.headD '\''
      let style := (styles.find? fun q => q.contains quote).getD [quote]
      ((literal.drop 1).dropLast, [style])
  | _ =>
      match escaped.getLast? with
      | none => (escaped, fitting)
      | some last =>
          let starts (q : List Char) := q.head? == some last
          let sorted := (fitting.filter fun q => !starts q) ++ fitting.filter starts
          match sorted with
          | q :: _ =>
              if starts q then (escaped.dropLast ++ ['\\', last], sorted) else (escaped, sorted)
          | [] => (escaped, sorted)

/-- A text in the first style that needs no backslash for a quote, if there is one. -/
def plainLiteral (styles : List (List Char)) (text : List Nat) : String :=
  let (body, styles) := encloseWith styles false text
  let quote := styles.headD ['\'']
  String.ofList (quote ++ body ++ quote)

/-- One style of quotes for all parts of an interpolated string; `true` marks plain text. -/
def enclosePieces (parts : List (List Nat × Bool)) : String :=
  let step (state : Option (List (List Char) × List (List Char))) (part : List Nat × Bool) :=
    state.bind fun (done, styles) =>
      let (body, fitting) := encloseWith styles part.2 part.1
      if fitting.any styles.contains then some (done ++ [body], fitting) else none
  match parts.foldl step (some ([], allQuotes)) with
  | some (bodies, styles) =>
      let quote := styles.headD ['\'']
      String.ofList (quote ++ bodies.flatten ++ quote)
  | none =>
      let quote := ['\'', '\'', '\'']
      let bodies := parts.map fun part =>
        ((Quoted.ofCodes ('"'.toNat :: part.1)).drop 2).dropLast
      String.ofList (quote ++ bodies.flatten ++ quote)

/-- Braces are doubled in the text of an interpolated string. -/
def doubleBraces (text : List Nat) : List Nat :=
  text.flatMap fun code => if code = 123 || code = 125 then [code, code] else [code]

/-! ### Operators -/

/-- How tightly an expression binds; parentheses go around one that binds less tightly than
its place asks for. -/
abbrev Precedence := Nat

namespace Precedence

def named : Precedence := 1
def tuple : Precedence := 2
def yield : Precedence := 3
def test : Precedence := 4
def or : Precedence := 5
def and : Precedence := 6
def not : Precedence := 7
def comparison : Precedence := 8
def bitOr : Precedence := 9
def bitXor : Precedence := 10
def bitAnd : Precedence := 11
def shift : Precedence := 12
def arithmetic : Precedence := 13
def term : Precedence := 14
def factor : Precedence := 15
def power : Precedence := 16
def await : Precedence := 17
def atom : Precedence := 18

/-- The next tighter level; the atom has none above it. -/
def next (p : Precedence) : Precedence := min (p + 1) atom

end Precedence

def Connective.text : Connective → String
  | .and => "and"
  | .or => "or"

def Connective.precedence : Connective → Precedence
  | .and => Precedence.and
  | .or => Precedence.or

def BinaryOp.text : BinaryOp → String
  | .add => "+"
  | .sub => "-"
  | .mul => "*"
  | .matMul => "@"
  | .div => "/"
  | .mod => "%"
  | .leftShift => "<<"
  | .rightShift => ">>"
  | .bitOr => "|"
  | .bitXor => "^"
  | .bitAnd => "&"
  | .floorDiv => "//"
  | .pow => "**"

def BinaryOp.precedence : BinaryOp → Precedence
  | .add | .sub => Precedence.arithmetic
  | .mul | .matMul | .div | .mod | .floorDiv => Precedence.term
  | .leftShift | .rightShift => Precedence.shift
  | .bitOr => Precedence.bitOr
  | .bitXor => Precedence.bitXor
  | .bitAnd => Precedence.bitAnd
  | .pow => Precedence.power

def UnaryOp.text : UnaryOp → String
  | .invert => "~"
  | .not => "not "
  | .plus => "+"
  | .minus => "-"

def UnaryOp.precedence : UnaryOp → Precedence
  | .not => Precedence.not
  | _ => Precedence.factor

def CompareOp.text : CompareOp → String
  | .eq => "=="
  | .notEq => "!="
  | .lt => "<"
  | .ltE => "<="
  | .gt => ">"
  | .gtE => ">="
  | .is => "is"
  | .isNot => "is not"
  | .in => "in"
  | .notIn => "not in"

/-- Parentheses around a text, if asked for. -/
def parens (needed : Bool) (text : String) : String :=
  if needed then "(" ++ text ++ ")" else text

def commas (texts : List String) : String := ", ".intercalate texts

/-- A tuple of one has a comma behind it. -/
def itemsText : List String → String
  | [one] => one ++ ","
  | texts => commas texts

/-! ### Expressions -/

/-- `avoid`: prefer quotes that need no backslash, inside a field of an interpolated string. -/
def literalText (avoid : Bool) : Literal → Printed String
  | .none => .ok "None"
  | .true => .ok "True"
  | .false => .ok "False"
  | .ellipsis => .ok "..."
  | .int value =>
      if Nat.pow 10 4300 ≤ value then .error .hugeInteger
      else .ok (String.ofList (Nat.toDigits 10 value))
  | .float value => .ok (finiteText value value.text)
  | .imaginary value => .ok (finiteText value (value.textWith false) ++ "j")
  | .text codes marked =>
      let body :=
        if avoid then plainLiteral allQuotes codes else String.ofList (Quoted.ofCodes codes)
      .ok (if marked then "u" ++ body else body)
  | .bytes values => .ok (String.ofList (Quoted.ofBytes values))
where
  /-- Infinity is spelled as a literal that is out of range. -/
  finiteText (value : Decimal.Binary64) (text : String) : String :=
    match value with
    | .infinite => "1e309"
    | .finite _ _ => text

/-- Whether an attribute needs a blank before its dot. -/
def Expr.isInteger : Expr → Bool
  | ⟨_, .literal (.int _)⟩ | ⟨_, .literal .true⟩ | ⟨_, .literal .false⟩ => true
  | _ => false

mutual

/-- The text of an expression at a place that asks for a precedence. -/
def exprText (avoid : Bool) (place : Precedence) : Expr → Printed String
  | ⟨_, .connect op values⟩ => do
      let texts ← operandTexts avoid op.precedence values
      return parens (place > op.precedence) ((" " ++ op.text ++ " ").intercalate texts)
  | ⟨_, .named target value⟩ => do
      let target ← exprText avoid Precedence.atom target
      let value ← exprText avoid Precedence.atom value
      return parens (place > Precedence.named) (target ++ " := " ++ value)
  | ⟨_, .binary left op right⟩ => do
      let p := op.precedence
      let left ← exprText avoid (if op = .pow then Precedence.next p else p) left
      let right ← exprText avoid (if op = .pow then p else Precedence.next p) right
      return parens (place > p) (left ++ " " ++ op.text ++ " " ++ right)
  | ⟨_, .unary op operand⟩ => do
      return parens (place > op.precedence)
        (op.text ++ (← exprText avoid op.precedence operand))
  | ⟨_, .lambda params body⟩ => do
      let params ← paramsText avoid params
      let body ← exprText avoid Precedence.test body
      let head := if params.isEmpty then "lambda" else "lambda " ++ params
      return parens (place > Precedence.test) (head ++ ": " ++ body)
  | ⟨_, .conditional test body orelse⟩ => do
      let body ← exprText avoid (Precedence.next Precedence.test) body
      let test ← exprText avoid (Precedence.next Precedence.test) test
      let orelse ← exprText avoid Precedence.test orelse
      return parens (place > Precedence.test) (body ++ " if " ++ test ++ " else " ++ orelse)
  | ⟨_, .dict entries⟩ => do
      return "\x7b" ++ commas (← entryTexts avoid entries) ++ "\x7d"
  | ⟨_, .set elements⟩ => do
      return "\x7b" ++ commas (← exprTexts avoid Precedence.test elements) ++ "\x7d"
  | ⟨_, .comprehension bracket element generators⟩ => do
      let inner := (← exprText avoid Precedence.test element) ++ (← generatorTexts avoid generators)
      return match bracket with
        | .list => "[" ++ inner ++ "]"
        | .set => "\x7b" ++ inner ++ "\x7d"
        | .generator => "(" ++ inner ++ ")"
  | ⟨_, .dictComprehension key value generators⟩ => do
      let key ← exprText avoid Precedence.test key
      let value ← exprText avoid Precedence.test value
      return "\x7b" ++ key ++ ": " ++ value ++ (← generatorTexts avoid generators) ++ "\x7d"
  | ⟨_, .await value⟩ => do
      return parens (place > Precedence.await)
        ("await " ++ (← exprText avoid Precedence.atom value))
  | ⟨_, .yield none⟩ => .ok (parens (place > Precedence.yield) "yield")
  | ⟨_, .yield (some value)⟩ => do
      return parens (place > Precedence.yield)
        ("yield " ++ (← exprText avoid Precedence.atom value))
  | ⟨_, .yieldFrom value⟩ => do
      return parens (place > Precedence.yield)
        ("yield from " ++ (← exprText avoid Precedence.atom value))
  | ⟨_, .compare left rest⟩ => do
      let left ← exprText avoid (Precedence.next Precedence.comparison) left
      return parens (place > Precedence.comparison) (left ++ (← comparisonTexts avoid rest))
  | ⟨_, .call function args keywords⟩ => do
      let function ← exprText avoid Precedence.atom function
      let args ← exprTexts avoid Precedence.test args
      let keywords ← keywordTexts avoid keywords
      return function ++ "(" ++ commas (args ++ keywords) ++ ")"
  | ⟨_, .interpolated pieces⟩ => do
      let parts ← pieceParts pieces
      if avoid then return "f" ++ plainLiteral allQuotes (parts.flatMap Prod.fst)
      else return "f" ++ enclosePieces parts
  | ⟨_, .literal value⟩ => literalText avoid value
  | ⟨_, .attribute value name⟩ => do
      let text ← exprText avoid Precedence.atom value
      return text ++ (if value.isInteger then " ." else ".") ++ name
  | ⟨_, .subscript value ⟨_, .tuple (first :: more)⟩⟩ => do
      let value ← exprText avoid Precedence.atom value
      let first ← exprText avoid Precedence.test first
      let more ← exprTexts avoid Precedence.test more
      return value ++ "[" ++ itemsText (first :: more) ++ "]"
  | ⟨_, .subscript value index⟩ => do
      let value ← exprText avoid Precedence.atom value
      return value ++ "[" ++ (← exprText avoid Precedence.test index) ++ "]"
  | ⟨_, .starred value⟩ => do
      return "*" ++ (← exprText avoid Precedence.bitOr value)
  | ⟨_, .name id⟩ => .ok id
  | ⟨_, .list elements⟩ => do
      return "[" ++ commas (← exprTexts avoid Precedence.test elements) ++ "]"
  | ⟨_, .tuple elements⟩ => do
      return parens (elements.isEmpty || place > Precedence.tuple)
        (itemsText (← exprTexts avoid Precedence.test elements))
  | ⟨_, .slice lower upper step⟩ => do
      let lower ← match lower with
        | some e => exprText avoid Precedence.test e
        | none => .ok ""
      let upper ← match upper with
        | some e => exprText avoid Precedence.test e
        | none => .ok ""
      let step ← match step with
        | some e => (":" ++ ·) <$> exprText avoid Precedence.test e
        | none => .ok ""
      return lower ++ ":" ++ upper ++ step

def exprTexts (avoid : Bool) (place : Precedence) : List Expr → Printed (List String)
  | [] => .ok []
  | e :: es => do return (← exprText avoid place e) :: (← exprTexts avoid place es)

/-- Each further operand of a connective stands one level tighter. -/
def operandTexts (avoid : Bool) (level : Precedence) : List Expr → Printed (List String)
  | [] => .ok []
  | e :: es => do
      let level := Precedence.next level
      return (← exprText avoid level e) :: (← operandTexts avoid level es)

def entryTexts (avoid : Bool) : List Entry → Printed (List String)
  | [] => .ok []
  | ⟨none, value⟩ :: rest => do
      return ("**" ++ (← exprText avoid Precedence.bitOr value)) :: (← entryTexts avoid rest)
  | ⟨some key, value⟩ :: rest => do
      let key ← exprText avoid Precedence.test key
      let value ← exprText avoid Precedence.test value
      return (key ++ ": " ++ value) :: (← entryTexts avoid rest)

def generatorTexts (avoid : Bool) : List Generator → Printed String
  | [] => .ok ""
  | ⟨isAsync, target, source, conditions⟩ :: rest => do
      let inner := Precedence.next Precedence.test
      let target ← exprText avoid Precedence.tuple target
      let source ← exprText avoid inner source
      let conditions ← exprTexts avoid inner conditions
      let head := (if isAsync then " async for " else " for ") ++ target ++ " in " ++ source
      return head ++ String.join (conditions.map (" if " ++ ·)) ++ (← generatorTexts avoid rest)

def comparisonTexts (avoid : Bool) : List Comparison → Printed String
  | [] => .ok ""
  | ⟨op, right⟩ :: rest => do
      let right ← exprText avoid (Precedence.next Precedence.comparison) right
      return " " ++ op.text ++ " " ++ right ++ (← comparisonTexts avoid rest)

def keywordTexts (avoid : Bool) : List Keyword → Printed (List String)
  | [] => .ok []
  | ⟨name, value⟩ :: rest => do
      let value ← exprText avoid Precedence.test value
      let head := match name with
        | some name => name ++ "="
        | none => "**"
      return (head ++ value) :: (← keywordTexts avoid rest)

/-- The parts of an interpolated string, braces doubled in the plain ones. -/
def pieceParts : List Piece → Printed (List (List Nat × Bool))
  | [] => .ok []
  | .text text :: rest => do return (doubleBraces text, true) :: (← pieceParts rest)
  | .field value conversion format :: rest => do
      let value ← exprText true (Precedence.next Precedence.test) value
      if value.toList.contains '\\' then throw .backslashInField
      let value := if value.startsWith "\x7b" then " " ++ value else value
      let conversion := match conversion with
        | some c => "!" ++ c.toString
        | none => ""
      let format ← match format with
        | some pieces => (fun parts => ':'.toNat :: parts.flatMap Prod.fst) <$> pieceParts pieces
        | none => .ok []
      let field := codes ("\x7b" ++ value ++ conversion).toList ++ format ++ [125]
      return (field, false) :: (← pieceParts rest)

def paramText (avoid : Bool) : Param → Printed String
  | ⟨name, hint, default⟩ => do
      let hint ← match hint with
        | some e => (": " ++ ·) <$> exprText avoid Precedence.test e
        | none => .ok ""
      let default ← match default with
        | some e => ("=" ++ ·) <$> exprText avoid Precedence.test e
        | none => .ok ""
      return name ++ hint ++ default

def paramTexts (avoid : Bool) : List Param → Printed (List String)
  | [] => .ok []
  | p :: ps => do return (← paramText avoid p) :: (← paramTexts avoid ps)

/-- A bare star stands before keyword-only parameters without a variadic one. -/
def paramsText (avoid : Bool) : Params → Printed String
  | ⟨positional, plain, rest, keywordOnly, keywordRest⟩ => do
      let positional ← paramTexts avoid positional
      let plain ← paramTexts avoid plain
      let rest ← match rest with
        | some p => (fun text => ["*" ++ text]) <$> paramText avoid p
        | none => .ok (if keywordOnly.isEmpty then [] else ["*"])
      let keywordOnly ← paramTexts avoid keywordOnly
      let keywordRest ← match keywordRest with
        | some p => (fun text => ["**" ++ text]) <$> paramText avoid p
        | none => .ok []
      let slash := if positional.isEmpty then [] else ["/"]
      return commas (positional ++ slash ++ plain ++ rest ++ keywordOnly ++ keywordRest)

end

/-! ### Patterns -/

mutual

def patternText (place : Precedence) : Pattern → Printed String
  | .value value => exprText false Precedence.test value
  | .singleton value => literalText false value
  | .sequence patterns => do
      return "[" ++ commas (← patternTexts Precedence.test patterns) ++ "]"
  | .star name => .ok ("*" ++ name.getD "_")
  | .mapping keys patterns rest => do
      let keys ← exprTexts false Precedence.test keys
      let values ← patternTexts Precedence.test patterns
      let pairs := List.zipWith (fun key value => key ++ ": " ++ value) keys values
      let rest := match rest with
        | some name => ["**" ++ name]
        | none => []
      return "\x7b" ++ commas (pairs ++ rest) ++ "\x7d"
  | .construct type positional names named => do
      let type ← exprText false Precedence.atom type
      let positional ← patternTexts Precedence.test positional
      let named ← patternTexts Precedence.test named
      let named := List.zipWith (fun name value => name ++ "=" ++ value) names named
      return type ++ "(" ++ commas (positional ++ named) ++ ")"
  | .capture _ none => .ok "_"
  | .capture none (some name) => .ok name
  | .capture (some pattern) (some name) => do
      return parens (place > Precedence.test)
        ((← patternText Precedence.bitOr pattern) ++ " as " ++ name)
  | .either patterns => do
      let texts ← patternTexts (Precedence.next Precedence.bitOr) patterns
      return parens (place > Precedence.bitOr) (" | ".intercalate texts)

def patternTexts (place : Precedence) : List Pattern → Printed (List String)
  | [] => .ok []
  | p :: ps => do return (← patternText place p) :: (← patternTexts place ps)

end

/-! ### Statements -/

/-- An expression at a place that asks for no more than a value. -/
def valueText (e : Expr) : Printed String := exprText false Precedence.test e

def optionText (before : String) : Option Expr → Printed String
  | some e => (before ++ ·) <$> valueText e
  | none => .ok ""

def aliasText (a : Alias) : String :=
  match a.rename with
  | some name => a.name ++ " as " ++ name
  | none => a.name

def simpleText : Simple → Printed String
  | .expr value => exprText false Precedence.yield value
  | .assign targets value => do
      let targets ← exprTexts false Precedence.tuple targets
      return String.join (targets.map (· ++ " = ")) ++ (← valueText value)
  | .augment target op value => do
      return (← valueText target) ++ " " ++ op.text ++ "= " ++ (← valueText value)
  | .annotate target hint value bare => do
      let isName := match target.form with
        | .name _ => true
        | _ => false
      let target := parens (!bare && isName) (← valueText target)
      return target ++ ": " ++ (← valueText hint) ++ (← optionText " = " value)
  | .ret value => do return "return" ++ (← optionText " " value)
  | .raise none _ => .ok "raise"
  | .raise (some exception) cause => do
      return "raise " ++ (← valueText exception) ++ (← optionText " from " cause)
  | .delete targets => do
      return "del " ++ commas (← exprTexts false Precedence.test targets)
  | .assert test message => do
      return "assert " ++ (← valueText test) ++ (← optionText ", " message)
  | .global names => .ok ("global " ++ commas names)
  | .nonlocal names => .ok ("nonlocal " ++ commas names)
  | .pass => .ok "pass"
  | .break => .ok "break"
  | .continue => .ok "continue"
  | .importModules names => .ok ("import " ++ commas (names.map aliasText))
  | .importFrom source names level =>
      .ok ("from " ++ String.ofList (List.replicate level '.') ++ source.getD "" ++ " import " ++
        commas (names.map aliasText))

def indentText (depth : Nat) : String := String.ofList (List.replicate (4 * depth) ' ')

/-- Functions and classes have an empty line above them, then their decorators. -/
def decorated (depth : Nat) (decorators : List Expr) (head : String) : Printed (List String) := do
  let decorators ← exprTexts false Precedence.test decorators
  return "" :: decorators.map (indentText depth ++ "@" ++ ·) ++ [indentText depth ++ head]

/-- The lines above the first block of a compound statement, without its colon. -/
def headLines (depth : Nat) : Head → Printed (List String)
  | .function isAsync name params decorators returns => do
      let params ← paramsText false params
      let returns ← optionText " -> " returns
      let keyword := if isAsync then "async def " else "def "
      decorated depth decorators (keyword ++ name ++ "(" ++ params ++ ")" ++ returns)
  | .classDef name bases keywords decorators => do
      let args := (← exprTexts false Precedence.test bases) ++ (← keywordTexts false keywords)
      decorated depth decorators
        ("class " ++ name ++ (if args.isEmpty then "" else "(" ++ commas args ++ ")"))
  | .ifThen test => do return [indentText depth ++ "if " ++ (← valueText test)]
  | .forLoop isAsync target source => do
      let target ← exprText false Precedence.tuple target
      let keyword := if isAsync then "async for " else "for "
      return [indentText depth ++ keyword ++ target ++ " in " ++ (← valueText source)]
  | .whileLoop test => do return [indentText depth ++ "while " ++ (← valueText test)]
  | .withItems isAsync items => do
      let items ← items.mapM fun (context, target) => do
        return (← valueText context) ++ (← optionText " as " target)
      let keyword := if isAsync then "async with " else "with "
      return [indentText depth ++ keyword ++ commas items]
  | .matchOn subject => do return [indentText depth ++ "match " ++ (← valueText subject)]
  | .tryBlock _ => .ok [indentText depth ++ "try"]

/-- The line that introduces a later block, without its colon. -/
def labelLine (star : Bool) : Label → Printed String
  | .body => .ok ""
  | .orelse => .ok "else"
  | .finalbody => .ok "finally"
  | .handler type name => do
      let type ← optionText " " type
      let name := match name with
        | some name => " as " ++ name
        | none => ""
      return (if star then "except*" else "except") ++ type ++ name
  | .case pattern guard => do
      return "case " ++ (← patternText Precedence.test pattern) ++ (← optionText " if " guard)

/-- Puts a colon behind the last line. -/
def colon : List String → List String
  | [] => []
  | [line] => [line ++ ":"]
  | line :: lines => line :: colon lines

/-- Whether the first statement of a block documents its owner. -/
def Head.hasDocumentation : Head → Bool
  | .function .. | .classDef .. => true
  | _ => false

mutual

/-- The lines of a statement. -/
def stmtLines (depth : Nat) : Stmt → Printed (List String)
  | .simple _ form => do return [indentText depth ++ (← simpleText form)]
  | .compound _ (.matchOn subject) blocks => do
      return colon (← headLines depth (.matchOn subject)) ++
        (← blockLines (depth + 1) (.matchOn subject) blocks)
  | .compound _ head [] => do return colon (← headLines depth head)
  | .compound _ head (⟨_, body⟩ :: blocks) => do
      return colon (← headLines depth head) ++
        (← bodyLines (depth + 1) head.hasDocumentation body) ++ (← blockLines depth head blocks)

/-- The blocks behind the first one. An `else` that holds one `if` alone becomes an `elif`. -/
def blockLines (depth : Nat) (head : Head) : List Block → Printed (List String)
  | [] => .ok []
  | ⟨.orelse, []⟩ :: rest => blockLines depth head rest
  | ⟨.orelse, [.compound _ (.ifThen test) (⟨_, body⟩ :: blocks)]⟩ :: rest => do
      let lines ← match head with
        | .ifThen _ => do
            let body ← bodyLines (depth + 1) false body
            let blocks ← blockLines depth head blocks
            .ok ((indentText depth ++ "elif " ++ (← valueText test) ++ ":") :: body ++ blocks)
        | _ => do
            let body ← bodyLines (depth + 2) false body
            let blocks ← blockLines (depth + 1) (.ifThen test) blocks
            .ok ((indentText depth ++ "else:") ::
              colon (← headLines (depth + 1) (.ifThen test)) ++ body ++ blocks)
      return lines ++ (← blockLines depth head rest)
  | ⟨label, body⟩ :: rest => do
      let star := match head with
        | .tryBlock star => star
        | _ => false
      return (indentText depth ++ (← labelLine star label) ++ ":") ::
        (← bodyLines (depth + 1) false body) ++ (← blockLines depth head rest)

/-- The lines of a block; a text alone at the start of a documented one is its documentation. -/
def bodyLines (depth : Nat) (documented : Bool) : List Stmt → Printed (List String)
  | [] => .ok []
  | .simple _ (.expr ⟨_, .literal (.text text marked)⟩) :: rest => do
      let line ←
        if documented then
          .ok ((if marked then "u" else "") ++ plainLiteral tripleQuotes text)
        else literalText false (.text text marked)
      return (indentText depth ++ line) :: (← bodyLines depth false rest)
  | stmt :: rest => do
      return (← stmtLines depth stmt) ++ (← bodyLines depth false rest)

end

/-- Joins lines; an empty line does not open a text. -/
def linesText : List String → String
  | "" :: lines => "\n".intercalate lines
  | lines => "\n".intercalate lines

/-- The text of one statement. -/
def Stmt.print (stmt : Stmt) : Printed String := linesText <$> stmtLines 0 stmt

/-- The text of a module. -/
def printModule (body : List Stmt) : Printed String := linesText <$> bodyLines 0 true body

end DocSuite.Syntax
