import DocSuite.Expectation

/-!
Checks: the statements that test an expectation when a suite runs. They call functions of the
module that suites import under a name of its own. A check of an error delays the evaluation: in
a function that is made for it, or in a block where a function would hide the names of a class.
-/
namespace DocSuite

open DocSuite.Syntax

/-- The name under which suites import what they call. -/
def supportName : String := "__mddoctest__"

namespace Check

/-- An expression that no source holds. -/
def made (form : Form) : Expr := ⟨0, form⟩

def nameExpr (id : String) : Expr := made (.name id)

def textExpr (s : String) : Expr := made (.literal (.ofString s))

/-- A call of a function that suites import. -/
def supportCall (function : String) (args : List Expr) : Expr :=
  made (.call (made (.attribute (nameExpr supportName) function)) args [])

/-- A statement of a check. -/
def recorded : Site := { recorded := true }

/-- The literal form of the expression is the text. -/
def value (expression : Expr) (expected : String) : Stmt :=
  .simple recorded (.expr (supportCall "assert_repr" [expression, textExpr expected]))

/-- The function that a check calls to evaluate the expression. -/
def thunk (expression : Expr) (thunkName : String) (inCoroutine : Bool) : Stmt :=
  .compound recorded (.function inCoroutine thunkName Params.empty [] none)
    [⟨.body, [.simple {} (.ret (some expression))]⟩]

/-- The call of the function ends in the error. -/
def thunkCheck (thunkName name message : String) (inCoroutine : Bool) : Stmt :=
  let args := [nameExpr thunkName, textExpr name, textExpr message]
  .simple recorded (.expr (if inCoroutine then made (.await (supportCall "assert_error" args))
    else supportCall "assert_error_sync" args))

/-- The evaluation of the expression in a function ends in the error. -/
def error (expression : Expr) (name message thunkName : String) (inCoroutine : Bool) :
    List Stmt :=
  [thunk expression thunkName inCoroutine, thunkCheck thunkName name message inCoroutine]

/-- The evaluation of the expression in its place ends in the error. -/
def inlineError (expression : Expr) (name message : String) : Stmt :=
  .compound recorded
    (.withItems false [(supportCall "expect_error" [textExpr name, textExpr message], none)])
    [⟨.body, [.simple {} (.expr expression)]⟩]

end Check

end DocSuite
