import DocSuite.Syntax.Grammar.Pattern
import DocSuite.Syntax.Grammar.Statement

/-!
Statements with blocks.
-/
namespace DocSuite.Syntax.Grammar

/-- A compound statement that starts at the mark. -/
def compoundAt (p : P (Head × List Block)) : P Stmt := do
  let start ← peek
  let (head, blocks) ← p
  return .compound { span := ← spanFrom start } head blocks

/-- A line break that no indented block follows. -/
def missingBlock : P Unit := do
  let _ ← newline
  notAhead indent

/-- Reports a missing block behind the head that a parser reads; its first keyword is on the line
that the message names. -/
def raiseMissingBlock (owner : String) (head : P Token) : P Unit := do
  let token ← head
  missingBlock
  raiseLast (.expectedBlockAfter owner token.line)

/-- Reports a missing colon at the end of a line. -/
def raiseMissingColon {α : Type} (head : P α) : P Unit := do
  let _ ← head
  let _ ← newline
  raiseLast (.expected ":")

def bodyOf (body : List Stmt) : Block := ⟨.body, body⟩

/-- The blocks of optional clauses. -/
def clause (label : Label) : Option (List Stmt) → List Block
  | some body => [⟨label, body⟩]
  | none => []

namespace Rules

variable (g : Rules)

/-! ### Blocks -/

def blockBody : P (List Stmt) → P (List Stmt) := fun statements =>
  choice [
    do
      let _ ← newline; let _ ← indent
      let body ← statements
      let _ ← dedent
      return body,
    g.simpleStmts,
    explain do missingBlock; raiseLast .expectedBlock]

def elseBlock : P (List Stmt) :=
  choice [
    explain (raiseMissingBlock "'else' statement" do
      let token ← accept .kwElse
      let _ ← accept .colon
      pure token),
    do let _ ← accept .kwElse; let _ ← require .colon; g.block]

/-! ### Conditions and loops -/

/-- `if` and `elif`. -/
def conditionStmt (keyword : Terminal) : P Stmt :=
  let head : P Token := do
    let token ← accept keyword
    let _ ← g.namedExpression
    pure token
  compoundAt (choice [
    explain (choice [
      raiseMissingColon head,
      raiseMissingBlock ("'" ++ keyword.text ++ "' statement") do
        let token ← head
        let _ ← accept .colon
        pure token]),
    do
      let _ ← accept keyword
      let test ← g.namedExpression
      let _ ← accept .colon
      let body ← g.block
      let other ← g.elifStmt
      return (.ifThen test, [bodyOf body, ⟨.orelse, [other]⟩]),
    do
      let _ ← accept keyword
      let test ← g.namedExpression
      let _ ← accept .colon
      let body ← g.block
      return (.ifThen test, bodyOf body :: clause .orelse (← optional g.elseBlock))])

def whileStmt : P Stmt :=
  let head : P Token := do
    let token ← accept .kwWhile
    let _ ← g.namedExpression
    pure token
  compoundAt (choice [
    explain (choice [
      raiseMissingColon head,
      raiseMissingBlock "'while' statement" do
        let token ← head
        let _ ← accept .colon
        pure token]),
    do
      let _ ← accept .kwWhile
      let test ← g.namedExpression
      let _ ← accept .colon
      let body ← g.block
      return (.whileLoop test, bodyOf body :: clause .orelse (← optional g.elseBlock))])

def forStmt : P Stmt :=
  let head : P Token := do
    let _ ← optional (accept .kwAsync)
    let token ← accept .kwFor
    let _ ← g.targets
    let _ ← accept .kwIn
    let _ ← g.starExpressions
    pure token
  let loop (isAsync : Bool) : P (Head × List Block) := do
    let _ ← accept .kwFor
    let target ← g.targets
    let _ ← accept .kwIn
    commit do
      let source ← g.starExpressions
      let _ ← accept .colon
      let body ← g.block
      return (.forLoop isAsync target source,
        bodyOf body :: clause .orelse (← optional g.elseBlock))
  compoundAt (choice [
    explain (choice [
      raiseMissingColon head,
      raiseMissingBlock "'for' statement" do
        let token ← head
        let _ ← accept .colon
        pure token]),
    loop false,
    behind .kwAsync (loop true),
    explain g.faultyForTarget])

/-! ### Contexts -/

def withItem : P (Expr × Option Expr) :=
  let itemEnd := ahead (choice [accept .comma, accept .parenClose, accept .colon])
  choice [
    do
      let context ← g.expression
      let _ ← accept .kwAs
      let target ← g.starTarget
      itemEnd
      return (context, some target),
    explain (choice [do
      let _ ← g.expression
      let _ ← accept .kwAs
      let target ← g.expression
      itemEnd
      raiseInvalidTarget .assign target]),
    do return (← g.expression, none)]

/-- The items of a faulty `with`, with or without parentheses. -/
def faultyWithHeads : List (P Token) :=
  let items (item : P Expr) : P Unit :=
    discard (commaSeparated do
      let _ ← item
      optional (behind .kwAs g.starTarget))
  [do
      let _ ← optional (accept .kwAsync)
      let token ← accept .kwWith
      items g.expression
      pure token,
    do
      let _ ← optional (accept .kwAsync)
      let token ← accept .kwWith
      let _ ← accept .parenOpen
      items g.expressions
      let _ ← optional (accept .comma)
      let _ ← accept .parenClose
      pure token]

def withStmt : P Stmt :=
  let parenthesized (isAsync : Bool) : P (Head × List Block) := do
    let _ ← accept .kwWith
    let _ ← accept .parenOpen
    let items ← commaSeparated g.withItem
    let _ ← optional (accept .comma)
    let _ ← accept .parenClose
    let _ ← accept .colon
    return (.withItems isAsync items, [bodyOf (← g.block)])
  let plain (isAsync : Bool) : P (Head × List Block) := do
    let _ ← accept .kwWith
    let items ← commaSeparated g.withItem
    let _ ← accept .colon
    return (.withItems isAsync items, [bodyOf (← g.block)])
  compoundAt (choice [
    explain (choice (g.faultyWithHeads.map fun head =>
      raiseMissingBlock "'with' statement" do
        let token ← head
        let _ ← accept .colon
        pure token)),
    parenthesized false, plain false,
    behind .kwAsync (parenthesized true), behind .kwAsync (plain true),
    explain (choice (g.faultyWithHeads.map raiseMissingColon))])

/-! ### Handlers -/

/-- The name that a handler binds. -/
def handlerName : P (Option String) := optional (behind .kwAs nameText)

def faultyHandler : P Unit :=
  choice [
    do
      let _ ← accept .kwExcept
      let _ ← optional (accept .star)
      let type ← g.expression
      let _ ← accept .comma
      let _ ← g.expressions
      let _ ← handlerName
      let _ ← accept .colon
      raiseAt type.line .unparenthesizedTypes,
    raiseMissingColon do
      let _ ← accept .kwExcept
      let _ ← optional (accept .star)
      let _ ← g.expression
      handlerName,
    raiseMissingColon (accept .kwExcept),
    do
      let _ ← accept .kwExcept
      let _ ← accept .star
      let _ ← choice [newline, accept .colon]
      raiseLast .expectedHandlerType]

def handler : P Block :=
  choice [
    explain (choice [
      raiseMissingBlock "'except' statement" do
        let token ← accept .kwExcept
        let _ ← g.expression
        let _ ← handlerName
        let _ ← accept .colon
        pure token,
      raiseMissingBlock "'except' statement" do
        let token ← accept .kwExcept
        let _ ← accept .colon
        pure token]),
    do
      let _ ← accept .kwExcept
      let type ← g.expression
      let name ← handlerName
      let _ ← accept .colon
      return ⟨.handler (some type) name, ← g.block⟩,
    do
      let _ ← accept .kwExcept
      let _ ← accept .colon
      return ⟨.handler none none, ← g.block⟩,
    explain g.faultyHandler]

def starHandler : P Block :=
  choice [
    explain (raiseMissingBlock "'except*' statement" do
      let token ← accept .kwExcept
      let _ ← accept .star
      let _ ← g.expression
      let _ ← handlerName
      let _ ← accept .colon
      pure token),
    do
      let _ ← accept .kwExcept
      let _ ← accept .star
      let type ← g.expression
      let name ← handlerName
      let _ ← accept .colon
      return ⟨.handler (some type) name, ← g.block⟩,
    explain g.faultyHandler]

def finallyBlock : P (List Stmt) :=
  choice [
    explain (raiseMissingBlock "'finally' statement" do
      let token ← accept .kwFinally
      let _ ← accept .colon
      pure token),
    do let _ ← accept .kwFinally; let _ ← require .colon; g.block]

/-- What handlers of both kinds stand behind. -/
def triedBlocks : P (List (List Stmt)) := do
  let _ ← accept .kwTry; let _ ← accept .colon
  many g.block

def faultyTry : P Unit :=
  choice [
    raiseMissingBlock "'try' statement" do
      let token ← accept .kwTry
      let _ ← accept .colon
      pure token,
    do
      let _ ← accept .kwTry; let _ ← accept .colon; let _ ← g.block
      notAhead (choice [accept .kwExcept, accept .kwFinally])
      raiseLast .expectedHandler,
    do
      let _ ← g.triedBlocks
      let _ ← many1 g.handler
      let token ← accept .kwExcept
      let _ ← accept .star; let _ ← g.expression; let _ ← handlerName
      let _ ← accept .colon
      raiseAt token.line .mixedHandlers,
    do
      let _ ← g.triedBlocks
      let _ ← many1 g.starHandler
      let token ← accept .kwExcept
      let _ ← optional do let _ ← g.expression; handlerName
      let _ ← accept .colon
      raiseAt token.line .mixedHandlers]

def tryStmt : P Stmt :=
  let start : P (List Stmt) := do
    let _ ← accept .kwTry
    let _ ← require .colon
    g.block
  let withHandlers (star : Bool) (handler : P Block) : P (Head × List Block) := do
    let body ← start
    let handlers ← many1 handler
    let orelse ← optional g.elseBlock
    let final ← optional g.finallyBlock
    return (.tryBlock star,
      bodyOf body :: handlers ++ clause .orelse orelse ++ clause .finalbody final)
  compoundAt (choice [
    explain g.faultyTry,
    do
      let body ← start
      return (.tryBlock false, [bodyOf body, ⟨.finalbody, ← g.finallyBlock⟩]),
    withHandlers false g.handler,
    withHandlers true g.starHandler])

/-! ### Matching -/

def matchWord : P Token := softKeyword ['m', 'a', 't', 'c', 'h']

def caseWord : P Token := softKeyword ['c', 'a', 's', 'e']

def subject : P Expr := do
  let line ← startLine
  choice [
    do
      let first ← g.starNamedExpression
      let _ ← accept .comma
      let more ← optional g.starNamedExpressions
      return ⟨line, .tuple (first :: more.getD [])⟩,
    g.namedExpression]

def guard : P Expr := behind .kwIf g.namedExpression

def caseBlock : P Block :=
  let head : P Token := do
    let token ← caseWord
    let _ ← g.patterns
    let _ ← optional g.guard
    pure token
  choice [
    explain (choice [
      raiseMissingColon head,
      raiseMissingBlock "'case' statement" do
        let token ← head
        let _ ← accept .colon
        pure token]),
    do
      let _ ← caseWord
      let pattern ← g.patterns
      let guard ← optional g.guard
      let _ ← accept .colon
      return ⟨.case pattern guard, ← g.block⟩]

def matchStmt : P Stmt :=
  let head : P Token := do
    let token ← matchWord
    let _ ← g.subject
    pure token
  compoundAt (choice [
    do
      let _ ← matchWord
      let subject ← g.subject
      let _ ← accept .colon
      let _ ← newline
      let _ ← indent
      let cases ← many1 g.caseBlock
      let _ ← dedent
      return (.matchOn subject, cases),
    explain (choice [
      raiseMissingColon head,
      raiseMissingBlock "'match' statement" do
        let token ← head
        let _ ← accept .colon
        pure token])])

/-! ### Definitions -/

def decorators : P (List Expr) :=
  many1 do
    let _ ← accept .atSign
    let decorator ← g.namedExpression
    let _ ← newline
    return decorator

def returns : P (Option Expr) := optional (behind .arrow g.expression)

def functionDef (decorators : List Expr) : P Stmt :=
  let definition (isAsync : Bool) : P (Head × List Block) := do
    let _ ← accept .kwDef
    let name ← nameText
    let _ ← require .parenOpen
    let params ← optional (g.params .function)
    let _ ← accept .parenClose
    let returns ← g.returns
    let _ ← require .colon
    return (.function isAsync name (params.getD Params.empty) decorators returns,
      [bodyOf (← g.block)])
  compoundAt (choice [
    explain (raiseMissingBlock "function definition" do
      let _ ← optional (accept .kwAsync)
      let token ← accept .kwDef
      let _ ← nameToken
      let _ ← accept .parenOpen
      let _ ← optional (g.params .function)
      let _ ← accept .parenClose
      let _ ← g.returns
      let _ ← accept .colon
      pure token),
    definition false,
    behind .kwAsync (definition true)])

def decoratedFunction : P Stmt :=
  choice [do g.functionDef (← g.decorators), g.functionDef []]

def classDef (decorators : List Expr) : P Stmt :=
  let bases : P (Option (Option Arguments)) :=
    optional do
      let _ ← accept .parenOpen
      let arguments ← optional g.arguments
      let _ ← accept .parenClose
      return arguments
  let head : P Token := do
    let token ← accept .kwClass
    let _ ← nameToken
    let _ ← bases
    pure token
  compoundAt (choice [
    explain (choice [
      raiseMissingColon head,
      raiseMissingBlock "class definition" do
        let token ← head
        let _ ← accept .colon
        pure token]),
    do
      let _ ← accept .kwClass
      let name ← nameText
      let arguments := (← bases).join
      let _ ← accept .colon
      let body ← g.block
      let (args, keywords) := match arguments with
        | some a => (a.args, a.keywords)
        | none => ([], [])
      return (.classDef name args keywords decorators, [bodyOf body])])

def decoratedClass : P Stmt :=
  choice [do g.classDef (← g.decorators), g.classDef []]

/-! ### Statements -/

def compoundStmt : P Stmt :=
  let when (words : List Terminal) (p : P Stmt) : P Stmt := do
    ahead (choice (words.map accept))
    p
  choice [
    when [.kwDef, .atSign, .kwAsync] g.decoratedFunction,
    when [.kwIf] (g.conditionStmt .kwIf),
    when [.kwClass, .atSign] g.decoratedClass,
    when [.kwWith, .kwAsync] g.withStmt,
    when [.kwFor, .kwAsync] g.forStmt,
    when [.kwTry] g.tryStmt,
    when [.kwWhile] g.whileStmt,
    g.matchStmt]

def statements : P (List Stmt) :=
  List.flatten <$> many1 (choice [List.singleton <$> g.compoundStmt, g.simpleStmts])

/-- A whole text. -/
def file : P (List Stmt) := do
  let body ← optional g.statements
  let _ ← finish
  return body.getD []

/-! ### The grammar -/

/-- What a rule reads, given the rules. -/
def body : (r : Rule) → P r.Out
  | .simpleStmt => g.simpleStmtBody
  | .block => g.blockBody g.statements
  | .elifStmt => g.conditionStmt .kwElif
  | .expression => g.expressionBody
  | .starExpression => g.starExpressionBody
  | .disjunction => g.disjunctionBody
  | .conjunction => g.conjunctionBody
  | .inversion => g.inversionBody
  | .bitOr => g.bitOrBody
  | .bitXor => g.bitXorBody
  | .bitAnd => g.bitAndBody
  | .shift => g.shiftBody
  | .sum => g.sumBody
  | .term => g.termBody
  | .factor => g.factorBody
  | .awaitPrimary => g.awaitPrimaryBody
  | .primary => g.primaryBody
  | .strings => g.stringsBody
  | .arguments => g.argumentsBody
  | .faultyNamedExpression => g.faultyNamedExpressionBody
  | .starTarget => g.starTargetBody
  | .targetWithStarAtom => g.targetWithStarAtomBody
  | .targetPrimary => g.targetPrimaryBody
  | .delTarget => g.delTargetBody
  | .singleTarget => g.singleTargetBody
  | .faultyAnnotationTarget => g.faultyAnnotationTargetBody
  | .closedPattern => g.closedPatternBody

/-- The rules, nested in each other at most `depth` times. -/
def upTo : (depth : Nat) → Rules
  | 0 => ⟨fun _ => fail⟩
  | depth + 1 => ⟨fun r => memoize r ((upTo depth).body r)⟩

end Rules

end DocSuite.Syntax.Grammar
