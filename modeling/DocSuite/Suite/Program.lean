import DocSuite.Check.Basic
import DocSuite.Import.Loads
import DocSuite.Syntax.Printer

/-!
Programs: the modules that register a suite and its cases. Main statement: a program holds its
imports, those that say how it is read first, then the imports of its own, and the suite last.
-/
namespace DocSuite

open DocSuite.Syntax

/-- A sample that has its checks, as a case of a suite. -/
structure Case where
  title : String
  body : List Stmt
  isAsync : Bool := true

structure Program where
  /-- The title of the suite. -/
  title : String
  cases : List Case
  imports : List Stmt

/-- An import that says how the module is read. -/
def Syntax.Stmt.isFutureImport : Stmt → Bool
  | .simple _ (.importFrom (some source) _ _) => source == futureName
  | _ => false

/-- A function that is registered under a title. -/
def registered (kind title : String) (isAsync : Bool) (name : String) (body : List Stmt) : Stmt :=
  let decorator := Check.supportCall kind [Check.textExpr title]
  .compound {} (.function isAsync name Params.empty [decorator] none)
    [⟨.body, if body.isEmpty then [Stmt.pass] else body⟩]

namespace Case

def functionName : String := "__mddoctest_case__"

def statement (case : Case) : Stmt :=
  registered "it" case.title case.isAsync functionName case.body

end Case

namespace Program

def functionName : String := "__mddoctest_suite__"

/-- The imports of every program. -/
def preamble : List Stmt :=
  [.simple {} (.importModules [⟨"asyncio", none⟩]),
    .simple {} (.importModules [⟨"pytest", none⟩]),
    .simple {} (.importFrom (some "mddoctest") [⟨"runtime", some supportName⟩] 0)]

def futureImports (program : Program) : List Stmt := program.imports.filter Stmt.isFutureImport

def otherImports (program : Program) : List Stmt :=
  program.imports.filter fun stmt => !stmt.isFutureImport

def suite (program : Program) : Stmt :=
  registered "describe" program.title false functionName (program.cases.map Case.statement)

/-- The statements, with others for the imports behind the preamble. -/
def statementsWith (program : Program) (imports : List Stmt) : List Stmt :=
  program.futureImports ++ preamble ++ imports ++ [program.suite]

def statements (program : Program) : List Stmt := program.statementsWith program.otherImports

/-- The text of a module. -/
def textOf (statements : List Stmt) : Printed String := (· ++ "\n") <$> printModule statements

end Program

end DocSuite
