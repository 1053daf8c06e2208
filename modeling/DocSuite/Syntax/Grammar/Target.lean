import DocSuite.Syntax.Grammar.Expression

/-!
Arguments of calls, and targets of assignments, loops and deletions.
-/
namespace DocSuite.Syntax.Grammar.Rules

variable (g : Rules)

/-! ### Arguments -/

/-- A keyword argument, or a starred one among them. -/
inductive KeywordArgument
  | keyword (keyword : Keyword)
  | starred (value : Expr)

/-- An argument whose name cannot be one. -/
def faultyKeyword : P Unit :=
  choice [
    do
      let token ← choice [accept .kwTrue, accept .kwFalse, accept .kwNone]
      let _ ← accept .equal
      raiseAt token.line (.cannotAssign (String.ofList token.text)),
    do
      let token ← nameToken
      let _ ← accept .equal; let _ ← g.expression; let _ ← g.generators
      raiseAt token.line .equalsForComparison,
    do
      notAhead do let _ ← nameToken; accept .equal
      let value ← g.expression
      let _ ← accept .equal
      raiseAt value.line .assignmentInArgument]

def namedArgument : P KeywordArgument := do
  let name ← nameText
  let _ ← accept .equal
  return .keyword ⟨some name, ← g.expression⟩

def keywordOrStarred : P KeywordArgument :=
  choice [
    explain g.faultyKeyword,
    g.namedArgument,
    KeywordArgument.starred <$> g.starredExpression]

def keywordOrDoubleStarred : P KeywordArgument :=
  choice [
    explain g.faultyKeyword,
    g.namedArgument,
    do let _ ← accept .pow; return .keyword ⟨none, ← g.expression⟩]

def keywordArguments : P (List KeywordArgument) :=
  choice [
    do
      let first ← commaSeparated g.keywordOrStarred
      let _ ← accept .comma
      return first ++ (← commaSeparated g.keywordOrDoubleStarred),
    commaSeparated g.keywordOrStarred,
    commaSeparated g.keywordOrDoubleStarred]

/-- Positional arguments, and the arguments behind them. -/
def collect (line : Nat) (positional : List Expr) (named : List KeywordArgument) : Arguments :=
  { line
    args := positional ++ named.filterMap fun
      | .starred value => some value
      | .keyword _ => none
    keywords := named.filterMap fun
      | .keyword keyword => some keyword
      | .starred _ => none }

def positionalArgument : P Expr :=
  choice [
    g.starredExpression,
    do let value ← g.plainOrNamed; notAhead (accept .equal); pure value]

def args : P Arguments := do
  let line ← startLine
  choice [
    do
      let positional ← commaSeparated g.positionalArgument
      let named ← optional (behind .comma g.keywordArguments)
      return collect line positional (named.getD []),
    do return collect line [] (← g.keywordArguments)]

/-- Whether two stars unpack one of the arguments. -/
def hasUnpacking (keywords : List Keyword) : Bool :=
  keywords.any fun ⟨name, _⟩ => name.isNone

def faultyArguments : P Unit :=
  choice [
    do
      let _ ← choice [
        do let _ ← commaSeparated g.positionalArgument; behind .comma g.keywordArguments,
        g.keywordArguments]
      let token ← accept .comma
      let _ ← commaSeparated do let _ ← g.starredExpression; notAhead (accept .equal)
      raiseAt token.line .starAfterDoubleStar,
    do
      let value ← g.expression
      let _ ← g.generators
      let _ ← accept .comma
      let _ ← optional (choice [
        discard g.args,
        do let _ ← g.expression; discard g.generators])
      raiseAt value.line .unparenthesizedGenerator,
    do
      let token ← nameToken
      let _ ← accept .equal; let _ ← g.expression; let _ ← g.generators
      raiseAt token.line .equalsForComparison,
    do
      let arguments ← g.args
      let _ ← g.generators
      match arguments.args with
      | _ :: _ :: _ =>
          let last := (arguments.args.getLast?).getD default
          raiseAt last.line .unparenthesizedGenerator
      | _ => giveUp,
    do
      let _ ← g.args
      let _ ← accept .comma
      let value ← g.expression
      let _ ← g.generators
      raiseAt value.line .unparenthesizedGenerator,
    do
      let arguments ← g.args
      let _ ← accept .comma
      let _ ← g.args
      raiseLast
        (if hasUnpacking arguments.keywords then .positionalAfterUnpacking
          else .positionalAfterKeyword)]

def argumentsBody : P Arguments :=
  choice [
    do
      let arguments ← g.args
      let _ ← optional (accept .comma)
      ahead (accept .parenClose)
      pure arguments,
    explain g.faultyArguments]

/-! ### Targets -/

/-- What keeps a primary from being a target: it goes on. -/
def goesOn : P Token := choice [accept .parenOpen, accept .listOpen, accept .dot]

/-- A primary that goes on. -/
def targetPrimaryBody : P Expr := do
  let line ← startLine
  let continued (p : P Expr) : P Expr := do
    let value ← p
    ahead goesOn
    pure value
  let first ← continued g.atom
  extend first fun value => choice ((g.trailers line value).map continued)

/-- An attribute or an index that ends the primary. -/
def attributeOrIndex : List (P Expr) := [
  do
    let line ← startLine
    let value ← g.targetPrimary
    let _ ← accept .dot
    let name ← nameText
    notAhead goesOn
    return ⟨line, .attribute value name⟩,
  do
    let line ← startLine
    let value ← g.targetPrimary
    let _ ← accept .listOpen
    let index ← g.slices
    let _ ← accept .listClose
    notAhead goesOn
    return ⟨line, .subscript value index⟩]

def starTargetBody : P Expr :=
  choice [
    located do
      let _ ← accept .star
      notAhead (accept .star)
      return .starred (← g.starTarget),
    g.targetWithStarAtom]

/-- Targets in parentheses. -/
def tupleTargets : P (List Expr) :=
  choice [
    do
      let first ← g.starTarget
      let more ← many1 (behind .comma g.starTarget)
      let _ ← optional (accept .comma)
      return first :: more,
    do
      let first ← g.starTarget
      let _ ← accept .comma
      return [first]]

def listTargets : P (List Expr) := do
  let targets ← commaSeparated g.starTarget
  let _ ← optional (accept .comma)
  return targets

def bracketed (openWith closeWith : Terminal) (p : P Expr) : P Expr := do
  let _ ← accept openWith
  let value ← p
  let _ ← accept closeWith
  pure value

def elementsIn (openWith closeWith : Terminal) (elements : P (List Expr))
    (form : List Expr → Form) : P Expr :=
  located do
    let _ ← accept openWith
    let elements ← optional elements
    let _ ← accept closeWith
    return form (elements.getD [])

def targetWithStarAtomBody : P Expr :=
  choice (g.attributeOrIndex ++ [
    nameExpr,
    bracketed .parenOpen .parenClose g.targetWithStarAtom,
    elementsIn .parenOpen .parenClose g.tupleTargets .tuple,
    elementsIn .listOpen .listClose g.listTargets .list])

def singleTargetBody : P Expr :=
  choice (g.attributeOrIndex ++ [
    nameExpr,
    bracketed .parenOpen .parenClose g.singleTarget])

def delTargets : P (List Expr) := do
  let targets ← commaSeparated g.delTarget
  let _ ← optional (accept .comma)
  return targets

def delTargetBody : P Expr :=
  choice (g.attributeOrIndex ++ [
    nameExpr,
    bracketed .parenOpen .parenClose g.delTarget,
    elementsIn .parenOpen .parenClose g.delTargets .tuple,
    elementsIn .listOpen .listClose g.delTargets .list])

/-- A list or a tuple where a single target must stand. -/
def faultyAnnotationTargetBody : P Expr :=
  choice [g.list, g.tuple, bracketed .parenOpen .parenClose g.faultyAnnotationTarget]

end DocSuite.Syntax.Grammar.Rules
