import DocSuite.Syntax.Grammar.Parameter

/-!
Expressions. Operators that group to the left are read in a loop over their right operands.
-/
namespace DocSuite.Syntax.Grammar

/-- What an expression is called in a message. -/
def exprKind (e : Expr) : String :=
  match e.form with
  | .attribute .. => "attribute"
  | .subscript .. => "subscript"
  | .starred .. => "starred"
  | .name .. => "name"
  | .list .. => "list"
  | .tuple .. => "tuple"
  | .lambda .. => "lambda"
  | .call .. => "function call"
  | .connect .. | .binary .. | .unary .. => "expression"
  | .comprehension .generator .. => "generator expression"
  | .comprehension .list .. => "list comprehension"
  | .comprehension .set .. => "set comprehension"
  | .dictComprehension .. => "dict comprehension"
  | .yield .. | .yieldFrom .. => "yield expression"
  | .await .. => "await expression"
  | .dict .. => "dict literal"
  | .set .. => "set display"
  | .interpolated .. => "f-string expression"
  | .literal .none => "None"
  | .literal .false => "False"
  | .literal .true => "True"
  | .literal .ellipsis => "ellipsis"
  | .literal _ => "literal"
  | .compare .. => "comparison"
  | .conditional .. => "conditional expression"
  | .named .. => "named expression"
  | .slice .. => "slice"

/-- What an expression stands for when it is a target. -/
inductive TargetUse
  | assign
  | forLoop
  | delete
  deriving DecidableEq, Repr

mutual

/-- The part of an expression that cannot be a target. -/
def invalidTarget? (use : TargetUse) : Expr → Option Expr
  | ⟨_, .list elements⟩ => invalidTargetIn? use elements
  | ⟨_, .tuple elements⟩ => invalidTargetIn? use elements
  | ⟨line, .starred value⟩ =>
      match use with
      | .delete => some ⟨line, .starred value⟩
      | _ => invalidTarget? use value
  | ⟨line, .compare left rest⟩ =>
      match use, rest with
      | .forLoop, ⟨.in, _⟩ :: _ => invalidTarget? use left
      | .forLoop, _ => none
      | _, _ => some ⟨line, .compare left rest⟩
  | ⟨_, .name _⟩ | ⟨_, .subscript _ _⟩ | ⟨_, .attribute _ _⟩ => none
  | e => some e

def invalidTargetIn? (use : TargetUse) : List Expr → Option Expr
  | [] => none
  | e :: es => (invalidTarget? use e).or (invalidTargetIn? use es)

end

/-- Reports the part of an expression that cannot be a target; no other explanation is tried if
there is none. -/
def raiseInvalidTarget (use : TargetUse) (e : Expr) : P Unit :=
  match invalidTarget? use e with
  | some part =>
      raiseAt part.line
        (match use with
          | .delete => .cannotDelete (exprKind part)
          | _ => .cannotAssign (exprKind part))
  | none => giveUp

/-- A name that was a statement once. -/
def isStatementWord (id : String) : Bool := id == "print" || id == "exec"

def isStatementName (e : Expr) : Bool :=
  match e.form with
  | .name id => isStatementWord id
  | _ => false

def discard {α : Type} (p : P α) : P Unit := (fun _ => ()) <$> p

/-- Something behind a token. -/
def behind {α : Type} (t : Terminal) (p : P α) : P α := do
  let _ ← accept t
  p

namespace Rules

variable (g : Rules)

/-! ### Starred and named expressions -/

def starred (p : P Expr) : P Expr :=
  located do let _ ← accept .star; return .starred (← p)

def starredExpression : P Expr :=
  choice [starred g.expression, do let _ ← accept .star; raiseLast .starWithoutValue]

/-- One item, or several as a tuple. -/
def tupleOf (item : P Expr) : P Expr := do
  let line ← startLine
  choice [
    do
      let first ← item
      let more ← many1 (behind .comma item)
      let _ ← optional (accept .comma)
      return ⟨line, .tuple (first :: more)⟩,
    do
      let first ← item
      let _ ← accept .comma
      return ⟨line, .tuple [first]⟩,
    item]

def starExpressions : P Expr := tupleOf g.starExpression

def expressions : P Expr := tupleOf g.expression

def starExpressionBody : P Expr := choice [starred g.bitOr, g.expression]

def assignmentExpression : P Expr :=
  choice [do
    let name ← nameExpr
    let _ ← accept .walrus
    commit do return ⟨name.line, .named name (← g.expression)⟩]

def namedExpression : P Expr :=
  choice [
    g.assignmentExpression,
    explain g.faultyNamedExpression,
    do let e ← g.expression; notAhead (accept .walrus); pure e]

/-- A named expression, or one that is not the target of an assignment. -/
def plainOrNamed : P Expr :=
  choice [
    g.assignmentExpression,
    do let e ← g.expression; notAhead (accept .walrus); pure e]

def starNamedExpression : P Expr := choice [starred g.bitOr, g.namedExpression]

def starNamedExpressions : P (List Expr) := do
  let elements ← commaSeparated g.starNamedExpression
  let _ ← optional (accept .comma)
  return elements

def yieldExpr : P Expr :=
  choice [
    located do
      let _ ← accept .kwYield; let _ ← accept .kwFrom
      return .yieldFrom (← g.expression),
    located do
      let _ ← accept .kwYield
      return .yield (← optional g.starExpressions)]

def yieldOrStars : P Expr := choice [g.yieldExpr, g.starExpressions]

def lambda : P Expr :=
  choice [located do
    let _ ← accept .kwLambda
    let params ← optional (g.params .lambda)
    let _ ← accept .colon
    return .lambda (params.getD Params.empty) (← g.expression)]

/-! ### Conditionals and connectives -/

def conditional : P Expr :=
  located do
    let body ← g.disjunction
    let _ ← accept .kwIf
    let test ← g.disjunction
    let _ ← accept .kwElse
    return .conditional test body (← g.expression)

def conditionalOrLess : P Expr := choice [g.conditional, g.disjunction, g.lambda]

def faultyExpression : P Unit :=
  choice [
    do
      notAhead (choice [
        do let _ ← nameToken; let _ ← tokenThat Token.isString,
        discard (softKeywordStart [['_'], ['c', 'a', 's', 'e'], ['m', 'a', 't', 'c', 'h']])])
      let left ← g.disjunction
      let _ ← withoutExplaining g.conditionalOrLess
      if isStatementName left then giveUp
      else if (← depthBehind) = 0 then giveUp
      else raiseAt left.line .forgottenComma,
    do
      let left ← g.disjunction
      let _ ← accept .kwIf; let _ ← g.disjunction
      notAhead (choice [accept .kwElse, accept .colon])
      raiseAt left.line .missingElse]

/-- A statement of old, which is a call. -/
def faultyStatementWord : P Unit :=
  choice [do
    let token ← nameToken
    notAhead (accept .parenOpen)
    let _ ← g.starExpressions
    let id := identifier token.text
    if isStatementWord id then raiseAt token.line (.missingCall id) else giveUp]

def expressionBody : P Expr :=
  choice [
    explain g.faultyExpression, explain g.faultyStatementWord,
    g.conditional, g.disjunction, g.lambda]

def connected (op : Connective) (t : Terminal) (operand : P Expr) : P Expr := do
  let line ← startLine
  choice [
    do
      let first ← operand
      let more ← many1 (behind t operand)
      return ⟨line, .connect op (first :: more)⟩,
    operand]

def disjunctionBody : P Expr := connected .or .kwOr g.conjunction

def conjunctionBody : P Expr := connected .and .kwAnd g.inversion

/-! ### Comparisons -/

def comparison : P Comparison :=
  let pair (p : P Token) (op : CompareOp) : P Comparison := do
    let _ ← p
    return ⟨op, ← g.bitOr⟩
  choice [
    pair (accept .equalEqual) .eq, pair (accept .notEqual) .notEq, pair (accept .lessEqual) .ltE,
    pair (accept .less) .lt, pair (accept .greaterEqual) .gtE, pair (accept .greater) .gt,
    pair (behind .kwNot (accept .kwIn)) .notIn, pair (accept .kwIn) .in,
    pair (behind .kwIs (accept .kwNot)) .isNot, pair (accept .kwIs) .is]

def inversionBody : P Expr :=
  choice [
    located do let _ ← accept .kwNot; return .unary .not (← g.inversion),
    do
      let line ← startLine
      let left ← g.bitOr
      return ⟨line, .compare left (← many1 g.comparison)⟩,
    g.bitOr]

/-! ### Binary operators -/

/-- Operands with operators between them, grouped to the left. -/
def leftGrouped (ops : List (Terminal × BinaryOp)) (operand : P Expr) : P Expr := do
  let line ← startLine
  let first ← operand
  extend first fun left =>
    choice (ops.map fun (t, op) => do
      let _ ← accept t
      return ⟨line, .binary left op (← operand)⟩)

def bitOrBody : P Expr := leftGrouped [(.bar, .bitOr)] g.bitXor

def bitXorBody : P Expr := leftGrouped [(.caret, .bitXor)] g.bitAnd

def bitAndBody : P Expr := leftGrouped [(.ampersand, .bitAnd)] g.shift

def shiftBody : P Expr :=
  leftGrouped [(.leftShift, .leftShift), (.rightShift, .rightShift)] g.sum

def sumBody : P Expr := leftGrouped [(.plus, .add), (.minus, .sub)] g.term

def termBody : P Expr :=
  leftGrouped
    [(.star, .mul), (.slash, .div), (.floorDiv, .floorDiv), (.percent, .mod), (.atSign, .matMul)]
    g.factor

def factorBody : P Expr :=
  let signed (t : Terminal) (op : UnaryOp) : P Expr :=
    located do let _ ← accept t; return .unary op (← g.factor)
  choice [
    signed .plus .plus, signed .minus .minus, signed .tilde .invert,
    do
      let line ← startLine
      let left ← g.awaitPrimary
      let _ ← accept .pow
      return ⟨line, .binary left .pow (← g.factor)⟩,
    g.awaitPrimary]

/-! ### Comprehensions -/

def targets : P Expr := do
  let line ← startLine
  choice [
    do let target ← g.starTarget; notAhead (accept .comma); pure target,
    do
      let first ← g.starTarget
      let more ← many (behind .comma g.starTarget)
      let _ ← optional (accept .comma)
      return ⟨line, .tuple (first :: more)⟩]

def faultyForTarget : P Unit :=
  choice [do
    let _ ← optional (accept .kwAsync)
    let _ ← accept .kwFor
    raiseInvalidTarget .forLoop (← g.starExpressions)]

def generator : P Generator :=
  let clause (isAsync : Bool) : P Generator := do
    let _ ← accept .kwFor
    let target ← g.targets
    let _ ← accept .kwIn
    commit do
      let source ← g.disjunction
      return ⟨isAsync, target, source, ← many (behind .kwIf g.disjunction)⟩
  choice [
    do let _ ← accept .kwAsync; clause true,
    clause false,
    explain g.faultyForTarget]

def generators : P (List Generator) := many1 g.generator

def faultyComprehension : P Unit :=
  let bracket := choice [accept .listOpen, accept .braceOpen]
  choice [
    do
      let _ ← choice [accept .listOpen, accept .parenOpen, accept .braceOpen]
      let element ← g.starredExpression
      let _ ← g.generators
      raiseAt element.line .unpackingInComprehension,
    do
      let _ ← bracket
      let element ← g.starNamedExpression
      let _ ← accept .comma
      let _ ← g.starNamedExpressions
      let _ ← g.generators
      raiseAt element.line .unparenthesizedTarget,
    do
      let _ ← bracket
      let element ← g.starNamedExpression
      let _ ← accept .comma
      let _ ← g.generators
      raiseAt element.line .unparenthesizedTarget]

def comprehensionIn (bracket : Bracket) (openWith closeWith : Terminal) (element : P Expr) :
    P Expr :=
  choice [
    located do
      let _ ← accept openWith
      let element ← element
      let generators ← g.generators
      let _ ← accept closeWith
      return .comprehension bracket element generators,
    explain g.faultyComprehension]

def generatorExpression : P Expr :=
  g.comprehensionIn .generator .parenOpen .parenClose g.plainOrNamed

/-! ### Displays -/

def list : P Expr :=
  choice [located do
    let _ ← accept .listOpen
    let elements ← optional g.starNamedExpressions
    let _ ← accept .listClose
    return .list (elements.getD [])]

def tuple : P Expr :=
  choice [located do
    let _ ← accept .parenOpen
    let elements ← optional do
      let first ← g.starNamedExpression
      let _ ← accept .comma
      let more ← optional g.starNamedExpressions
      return first :: more.getD []
    let _ ← accept .parenClose
    return .tuple (elements.getD [])]

def set : P Expr :=
  choice [located do
    let _ ← accept .braceOpen
    let elements ← g.starNamedExpressions
    let _ ← accept .braceClose
    return .set elements]

def entry : P Entry :=
  choice [
    do let _ ← accept .pow; return ⟨none, ← g.bitOr⟩,
    do
      let key ← g.expression
      let _ ← accept .colon
      return ⟨some key, ← g.expression⟩]

/-- What is wrong with the value of an entry. -/
def faultyEntryValue : List (P Unit) := [
  do
    let _ ← g.expression; let _ ← accept .colon
    let token ← accept .star
    let _ ← g.bitOr
    raiseAt token.line .starredValue,
  do
    let _ ← g.expression
    let token ← accept .colon
    ahead (choice [accept .braceClose, accept .comma])
    raiseAt token.line .expectedValueAfterKey]

def faultyEntries : P Unit :=
  choice ([
    do
      let _ ← commaSeparated g.entry
      let _ ← accept .comma
      choice ([
        do
          let key ← g.expression
          notAhead (accept .colon)
          raiseAt key.line .expectedColonAfterKey] ++ g.faultyEntryValue)]
    ++ g.faultyEntryValue)

def dict : P Expr :=
  choice [
    located do
      let _ ← accept .braceOpen
      let entries ← optional do
        let entries ← commaSeparated g.entry
        let _ ← optional (accept .comma)
        pure entries
      let _ ← accept .braceClose
      return .dict (entries.getD []),
    do
      let _ ← accept .braceOpen
      g.faultyEntries
      fail]

def dictComprehension : P Expr :=
  choice [
    located do
      let _ ← accept .braceOpen
      let key ← g.expression
      let _ ← accept .colon
      let value ← g.expression
      let generators ← g.generators
      let _ ← accept .braceClose
      return .dictComprehension key value generators,
    explain do
      let _ ← accept .braceOpen
      let token ← accept .pow
      let _ ← g.bitOr
      let _ ← g.generators
      let _ ← accept .braceClose
      raiseAt token.line .dictUnpackingInComprehension]

def group : P Expr :=
  choice [
    do
      let _ ← accept .parenOpen
      let value ← choice [g.yieldExpr, g.namedExpression]
      let _ ← accept .parenClose
      pure value,
    explain (choice [
      do
        let _ ← accept .parenOpen
        let value ← g.starredExpression
        let _ ← accept .parenClose
        raiseAt value.line .starredHere,
      do
        let _ ← accept .parenOpen
        let token ← accept .pow
        let _ ← g.expression
        let _ ← accept .parenClose
        raiseAt token.line .doubleStarredHere])]

/-! ### Primaries -/

def atom : P Expr :=
  choice [
    nameExpr,
    constant .kwTrue .true,
    constant .kwFalse .false,
    constant .kwNone .none,
    do ahead (tokenThat Token.isString); g.strings,
    number,
    do ahead (accept .parenOpen); choice [g.tuple, g.group, g.generatorExpression],
    do
      ahead (accept .listOpen)
      choice [g.list, g.comprehensionIn .list .listOpen .listClose g.namedExpression],
    do
      ahead (accept .braceOpen)
      choice [
        g.dict, g.set, g.dictComprehension,
        g.comprehensionIn .set .braceOpen .braceClose g.namedExpression],
    constant .ellipsis .ellipsis]

def slice : P Expr :=
  choice [
    located do
      let lower ← optional g.expression
      let _ ← accept .colon
      let upper ← optional g.expression
      let step ← optional (behind .colon (optional g.expression))
      return .slice lower upper step.join,
    g.namedExpression]

def slices : P Expr := do
  let line ← startLine
  choice [
    do let index ← g.slice; notAhead (accept .comma); pure index,
    do
      let elements ← commaSeparated (choice [g.slice, g.starredExpression])
      let _ ← optional (accept .comma)
      return ⟨line, .tuple elements⟩]

def callOf (line : Nat) (function : Expr) (arguments : Option Arguments) : Expr :=
  match arguments with
  | some a => ⟨line, .call function a.args a.keywords⟩
  | none => ⟨line, .call function [] []⟩

/-- What can follow a primary and belong to it: an attribute, a call, an index. The generator is
the single argument of a call. -/
def trailers (line : Nat) (value : Expr) : List (P Expr) := [
  do let _ ← accept .dot; return ⟨line, .attribute value (← nameText)⟩,
  do return ⟨line, .call value [← g.generatorExpression] []⟩,
  do
    let _ ← accept .parenOpen
    let arguments ← optional g.arguments
    let _ ← accept .parenClose
    return callOf line value arguments,
  do
    let _ ← accept .listOpen
    let index ← g.slices
    let _ ← accept .listClose
    return ⟨line, .subscript value index⟩]

def primaryBody : P Expr := do
  let line ← startLine
  let first ← g.atom
  extend first fun value => choice (g.trailers line value)

def awaitPrimaryBody : P Expr :=
  choice [
    located do let _ ← accept .kwAwait; return .await (← g.primary),
    g.primary]

def stringsBody : P Expr := adjacentStrings fun env => env.parse g.starExpressions

/-! ### Faults of named expressions -/

def faultyNamedExpressionBody : P Unit :=
  let noEquals := notAhead (choice [accept .equal, accept .walrus])
  choice [
    do
      let left ← g.expression
      let _ ← accept .walrus; let _ ← g.expression
      raiseAt left.line (.cannotNameWith (exprKind left)),
    do
      let token ← nameToken
      let _ ← accept .equal; let _ ← g.bitOr
      noEquals
      raiseAt token.line .equalsForComparison,
    do
      notAhead (choice [
        discard g.list, discard g.tuple, discard g.generatorExpression,
        discard (accept .kwTrue), discard (accept .kwNone), discard (accept .kwFalse)])
      let left ← g.bitOr
      let _ ← accept .equal; let _ ← g.bitOr
      noEquals
      raiseAt left.line (.cannotAssignHere (exprKind left))]

end Rules

end DocSuite.Syntax.Grammar
