import DocSuite.Check.Basic
import DocSuite.Check.Ledger

/-!
Putting checks into the body of a sample. Each expression with an expectation is replaced by its
check; imports leave the body, so that a suite has them at its top. A block that holds no statement
after that holds one that does nothing, or is left out where the grammar allows it. Main statement:
statements that are neither keep their order and their block.
-/
namespace DocSuite

open DocSuite.Syntax

/-- What encloses a statement: functions can wait only in a coroutine, and do not see the names of
a class around them. -/
inductive Scope
  | coroutine
  | function
  | classBody
  deriving DecidableEq, Repr

/-- The scope of the blocks of a compound statement. -/
def Scope.enter (scope : Scope) : Head → Scope
  | .function true .. => .coroutine
  | .function false .. => .function
  | .classDef .. => .classBody
  | _ => scope

/-- An expectation that a check was put in for, with the line of its statement. -/
structure Finding where
  line : Nat
  expectation : Expectation
  deriving DecidableEq, Repr

/-- What is known of the samples of a document that have their checks. -/
structure Checks where
  ledger : Ledger Stmt := {}
  /-- The imports in the order in which they were found. -/
  imports : List Stmt := []
  findings : List Finding := []

namespace Checks

/-- The statements that check an expectation in a scope. -/
def statements (checks : Checks) (scope : Scope) (expression : Expr) :
    Expectation → List Stmt × Checks
  | .value expected => ([Check.value expression expected], checks)
  | .error name message =>
      match scope with
      | .classBody => ([Check.inlineError expression name message], checks)
      | _ =>
          let (thunkName, ledger) := checks.ledger.nextThunk
          (Check.error expression name message thunkName (scope == .coroutine),
            { checks with ledger })

/-- The check of an expectation, recorded. -/
def check (checks : Checks) (scope : Scope) (line : Nat) (expression : Expr)
    (expectation : Expectation) : List Stmt × Checks :=
  let (stmts, checks) := checks.statements scope expression expectation
  (stmts, { checks with
    ledger := checks.ledger.record stmts
    findings := checks.findings ++ [⟨line, expectation⟩] })

/-- A statement without blocks. -/
def simple (checks : Checks) (scope : Scope) (stmt : Stmt) : List Stmt × Checks :=
  if stmt.site.recorded then ([stmt], checks)
  else
    match stmt.expectation? with
    | some (expression, expectation) =>
        checks.check scope stmt.site.span.start.line expression expectation
    | none =>
        match stmt with
        | .simple _ (.importModules _) | .simple _ (.importFrom ..) =>
            ([], { checks with imports := checks.imports ++ [stmt] })
        | _ => ([stmt], checks)

/-- A block that the grammar requires holds a statement; another one is left out if it is emptied.
A block that never held one is left as it is. -/
def block (label : Label) (before body : List Stmt) : List Block :=
  match label, before, body with
  | label, [], body => [⟨label, body⟩]
  | .orelse, _, [] => []
  | label, _, [] => [⟨label, [Stmt.pass]⟩]
  | label, _, body => [⟨label, body⟩]

mutual

/-- The statements that stand for a statement. -/
def insertStmt (scope : Scope) (checks : Checks) : Stmt → List Stmt × Checks
  | .simple site form => checks.simple scope (.simple site form)
  | .compound site head blocks =>
      if site.recorded then ([.compound site head blocks], checks)
      else
        let (blocks, checks) := insertBlocks (scope.enter head) checks blocks
        ([.compound site head blocks], checks)

def insertBlocks (scope : Scope) (checks : Checks) : List Block → List Block × Checks
  | [] => ([], checks)
  | ⟨label, before⟩ :: rest =>
      let (body, checks) := insertBody scope checks before
      let (rest, checks) := insertBlocks scope checks rest
      (block label before body ++ rest, checks)

def insertBody (scope : Scope) (checks : Checks) : List Stmt → List Stmt × Checks
  | [] => ([], checks)
  | stmt :: rest =>
      let (stmts, checks) := insertStmt scope checks stmt
      let (rest, checks) := insertBody scope checks rest
      (stmts ++ rest, checks)

end

/-- Puts the checks into the body of a sample, which is the body of a coroutine. -/
def insert (checks : Checks) (body : List Stmt) : List Stmt × Checks :=
  let (body, checks) := insertBody .coroutine checks body
  (if body.isEmpty then [Stmt.pass] else body, checks)

end Checks

end DocSuite
