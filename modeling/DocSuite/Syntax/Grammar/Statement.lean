import DocSuite.Syntax.Grammar.Target

/-!
Statements without blocks.
-/
namespace DocSuite.Syntax.Grammar

/-- A statement that starts at the mark. -/
def simpleAt (p : P Simple) : P Stmt := do
  let start ← peek
  let form ← p
  return .simple { span := ← spanFrom start } form

def augmentations : List (Terminal × BinaryOp) :=
  [(.addEqual, .add), (.subEqual, .sub), (.mulEqual, .mul), (.matMulEqual, .matMul),
    (.divEqual, .div), (.modEqual, .mod), (.bitAndEqual, .bitAnd), (.bitOrEqual, .bitOr),
    (.bitXorEqual, .bitXor), (.leftShiftEqual, .leftShift), (.rightShiftEqual, .rightShift),
    (.powEqual, .pow), (.floorDivEqual, .floorDiv)]

def augmentation : P BinaryOp :=
  choice (augmentations.map fun (t, op) => do let _ ← accept t; return op)

def dottedName : P String := do
  let first ← nameText
  let more ← many (behind .dot nameText)
  return ".".intercalate (first :: more)

/-- The dots in front of a module; an ellipsis counts as three. -/
def importDots : P Nat :=
  choice [
    do let _ ← accept .dot; return 1,
    do let _ ← accept .ellipsis; return 3]

def renamed (p : P String) : P Alias := do
  let name ← p
  return ⟨name, ← optional (behind .kwAs nameText)⟩

def importNames : P (List Alias) := commaSeparated (renamed nameText)

def importTargets : P (List Alias) :=
  choice [
    do
      let _ ← accept .parenOpen
      let names ← importNames
      let _ ← optional (accept .comma)
      let _ ← accept .parenClose
      return names,
    do
      let names ← importNames
      notAhead (accept .comma)
      return names,
    do let _ ← accept .star; return [⟨"*", none⟩],
    explain do
      let _ ← importNames
      let _ ← accept .comma
      let _ ← newline
      raiseLast .trailingImportComma]

def importStmt : P Simple :=
  choice [
    do
      let _ ← accept .kwImport
      return .importModules (← commaSeparated (renamed dottedName)),
    do
      let _ ← accept .kwFrom
      let dots ← many importDots
      let source ← dottedName
      let _ ← accept .kwImport
      return .importFrom (some source) (← importTargets) (dots.foldl (· + ·) 0),
    do
      let _ ← accept .kwFrom
      let dots ← many1 importDots
      let _ ← accept .kwImport
      return .importFrom none (← importTargets) (dots.foldl (· + ·) 0)]

namespace Rules

variable (g : Rules)

def assignedValue : P (Option Expr) := optional (behind .equal g.yieldOrStars)

def faultyAssignment : P Unit :=
  choice [
    do
      let target ← g.faultyAnnotationTarget
      let _ ← accept .colon; let _ ← g.expression
      raiseAt target.line (.onlySingleTarget (exprKind target)),
    do
      let target ← g.starNamedExpression
      let _ ← accept .comma
      let _ ← many g.starNamedExpressions
      let _ ← accept .colon; let _ ← g.expression
      raiseAt target.line (.onlySingleTarget "tuple"),
    do
      let target ← g.expression
      let _ ← accept .colon; let _ ← g.expression
      raiseAt target.line .illegalAnnotationTarget,
    do
      let _ ← many do let _ ← g.targets; accept .equal
      let value ← g.starExpressions
      let _ ← accept .equal
      raiseInvalidTarget .assign value,
    do
      let _ ← many do let _ ← g.targets; accept .equal
      let value ← g.yieldExpr
      let _ ← accept .equal
      raiseAt value.line .cannotAssignYield,
    do
      let target ← g.starExpressions
      let _ ← augmentation
      let _ ← g.yieldOrStars
      raiseAt target.line (.cannotAugment (exprKind target))]

def assignment : P Simple :=
  choice [
    do
      let target ← nameExpr
      let _ ← accept .colon
      let hint ← g.expression
      return .annotate target hint (← g.assignedValue) true,
    do
      let target ← choice (bracketed .parenOpen .parenClose g.singleTarget :: g.attributeOrIndex)
      let _ ← accept .colon
      let hint ← g.expression
      return .annotate target hint (← g.assignedValue) false,
    do
      let targets ← many1 do
        let target ← g.targets
        let _ ← accept .equal
        pure target
      let value ← g.yieldOrStars
      notAhead (accept .equal)
      return .assign targets value,
    do
      let target ← g.singleTarget
      let op ← augmentation
      commit do return .augment target op (← g.yieldOrStars),
    explain g.faultyAssignment]

def delete : P Simple :=
  choice [
    do
      let _ ← accept .kwDel
      let targets ← g.delTargets
      ahead (choice [discard (accept .semicolon), discard newline])
      return .delete targets,
    explain (choice [do
      let _ ← accept .kwDel
      raiseInvalidTarget .delete (← g.starExpressions)])]

def raiseStmt : P Simple :=
  choice [
    do
      let _ ← accept .kwRaise
      let exception ← g.expression
      return .raise (some exception) (← optional (behind .kwFrom g.expression)),
    do let _ ← accept .kwRaise; return .raise none none]

def simpleStmtBody : P Stmt :=
  simpleAt (choice [
    g.assignment,
    Simple.expr <$> g.starExpressions,
    do let _ ← accept .kwReturn; return .ret (← optional g.starExpressions),
    do ahead (choice [accept .kwImport, accept .kwFrom]); importStmt,
    do ahead (accept .kwRaise); g.raiseStmt,
    do let _ ← accept .kwPass; return .pass,
    do ahead (accept .kwDel); g.delete,
    Simple.expr <$> g.yieldExpr,
    do
      let _ ← accept .kwAssert
      let test ← g.expression
      return .assert test (← optional (behind .comma g.expression)),
    do let _ ← accept .kwBreak; return .break,
    do let _ ← accept .kwContinue; return .continue,
    do let _ ← accept .kwGlobal; return .global (← commaSeparated nameText),
    do let _ ← accept .kwNonlocal; return .nonlocal (← commaSeparated nameText)])

/-- Statements on one line. -/
def simpleStmts : P (List Stmt) :=
  choice [
    do
      let stmt ← g.simpleStmt
      notAhead (accept .semicolon)
      let _ ← newline
      return [stmt],
    do
      let stmts ← separated (accept .semicolon) g.simpleStmt
      let _ ← optional (accept .semicolon)
      let _ ← newline
      return stmts]

end Rules

end DocSuite.Syntax.Grammar
