import DocSuite.Execution.Expect
import DocSuite.Execution.Object
import DocSuite.Import.Loading
import DocSuite.Order

/-!
Running the body of a case. What is evaluated are literals, sums, products and shifts of integers,
look-ups in dictionaries, calls of functions without parameters and the checks; a statement or an
expression of another kind has no effect, and no value. Main statement: a case passes exactly if no
check fails and nothing is raised.
-/
namespace DocSuite

open DocSuite.Syntax

namespace Evaluation

/-- The names that are set, with what they are set to. -/
abbrev Names := List (String × Object)

/-- How statements end. -/
inductive Flow
  | goesOn (names : Names)
  | returned (value : Object)

/-- What was returned; the end of a body returns nothing. -/
def Flow.value : Flow → Object
  | goesOn _ => .none
  | returned value => value

def typeError (message : String) : Raised := { className := "TypeError", message }

/-- Functions call each other deeper than they can. -/
def tooDeep : Raised :=
  { className := "RecursionError", message := "maximum recursion depth exceeded" }

/-- A dictionary does not have a key. -/
def keyError (key : Object) : Raised := Raised.ofText "KeyError" key.shown

/-- The function of the support module that a call names. -/
def supportFunction? (function : Expr) : Option String :=
  match function.form with
  | .attribute ⟨_, .name id⟩ name => if id = supportName then some name else none
  | _ => none

/-- The call of a function of the support module. -/
def supportCall? (e : Expr) : Option (String × List Expr) :=
  match e.form with
  | .call function args [] => (supportFunction? function).map fun name => (name, args)
  | _ => none

/-- The blocks of a compound statement under a label without operands. -/
def bodyOf (blocks : List Block) : List Stmt :=
  blocks.flatMap fun block =>
    match block with
    | ⟨.body, body⟩ => body
    | _ => []

def orelseOf (blocks : List Block) : List Stmt :=
  blocks.flatMap fun block =>
    match block with
    | ⟨.orelse, body⟩ => body
    | _ => []

def negative : Object → Object
  | .float isNegative magnitude => .float (!isNegative) magnitude
  | .imaginary isNegative magnitude => .imaginary (!isNegative) magnitude
  | object =>
      match object.integer? with
      | some n => .int (-n)
      | none => .none

def applyUnary (op : UnaryOp) (operand : Object) : Object :=
  match op with
  | .not => .bool (!operand.isTrue)
  | .minus => negative operand
  | .plus =>
      match operand with
      | .float .. | .imaginary .. => operand
      | operand =>
          match operand.integer? with
          | some n => .int n
          | none => .none
  | .invert =>
      match operand.integer? with
      | some n => .int (-n - 1)
      | none => .none

/-- The sum, the difference, the product or the shift of two integers. -/
def applyBinary (left : Object) (op : BinaryOp) (right : Object) : Except Raised Object :=
  match left.integer?, right.integer? with
  | some m, some n =>
      match op with
      | .add => .ok (.int (m + n))
      | .sub => .ok (.int (m - n))
      | .mul => .ok (.int (m * n))
      | .leftShift =>
          if n < 0 then .error { className := "ValueError", message := "negative shift count" }
          else .ok (.int (m * Nat.pow 2 n.toNat))
      | _ => .ok .none
  | _, _ => .ok .none

/-- What a dictionary has under a key. -/
def lookUp (value key : Object) : Except Raised Object :=
  match value with
  | .dict entries =>
      match Object.entry? key entries with
      | some value => .ok value
      | none => .error (keyError key)
  | _ => .ok .none

/-- The items of a set in the order in which they are shown, if they are small. -/
def setItems (items : List Object) : List Object :=
  let items := items.foldl Object.addItem []
  if items.all fun item => (item.integer?.map fun n => 0 ≤ n && n < 8).getD false then
    sortBy (fun a b => (a.integer?.getD 0) < (b.integer?.getD 0)) items
  else items

mutual

/-- The value of an expression. Each step of the fuel goes into an expression or a body. -/
def eval : (fuel : Nat) → Names → Expr → Except Raised Object
  | 0, _, _ => .error tooDeep
  | fuel + 1, names, e =>
      match e.form with
      | .literal value => .ok (.ofLiteral value)
      | .name id =>
          match names.lookup id with
          | some object => .ok object
          | none => .error { className := "NameError", message := s!"name '{id}' is not defined" }
      | .unary op operand => applyUnary op <$> eval fuel names operand
      | .binary left op right => do
          applyBinary (← eval fuel names left) op (← eval fuel names right)
      | .subscript value key => do lookUp (← eval fuel names value) (← eval fuel names key)
      | .list elements => .list <$> elements.mapM (eval fuel names)
      | .tuple elements => .tuple <$> elements.mapM (eval fuel names)
      | .set elements => (fun items => .set (setItems items)) <$> elements.mapM (eval fuel names)
      | .dict entries => do
          let pairs ← entries.mapM fun entry =>
            match entry with
            | ⟨some key, value⟩ => do return some (← eval fuel names key, ← eval fuel names value)
            | ⟨none, _⟩ => .ok none
          return .dict ((pairs.filterMap id).foldl (fun dict pair =>
            Object.setEntry pair.1 pair.2 dict) [])
      | .call function [] [] => do callObject fuel names (← eval fuel names function)
      | .call _ _ _ =>
          match supportCall? e with
          | some (function, args) => do
              support fuel names function (← args.mapM (eval fuel names))
          | none => .ok .none
      | .await value =>
          match supportCall? value with
          | some (function, args) => do
              support fuel names function (← args.mapM (eval fuel names))
          | none => do
              let object ← eval fuel names value
              match object with
              | .coroutine body => awaitBody fuel names body
              | object => .error (typeError
                  s!"object {object.kindName} can't be used in 'await' expression")
      | _ => .ok .none

/-- Calls an object without arguments. -/
def callObject : (fuel : Nat) → Names → Object → Except Raised Object
  | 0, _, _ => .error tooDeep
  | fuel + 1, names, object =>
      match object with
      | .function true body => .ok (.coroutine body)
      | .function false body => Flow.value <$> runBody fuel names body
      | .classObject _ => .ok .none
      | object => .error (typeError s!"'{object.kindName}' object is not callable")

/-- Awaits a coroutine. -/
def awaitBody : (fuel : Nat) → Names → List Stmt → Except Raised Object
  | 0, _, _ => .error tooDeep
  | fuel + 1, names, body =>
      (Flow.value <$> runBody fuel names body).mapError Raised.leavingCoroutine

/-- Awaits an object, and what that gives, as long as it can be awaited. -/
def awaitAll : (fuel : Nat) → Names → Object → Except Raised Unit
  | 0, _, _ => .error tooDeep
  | fuel + 1, names, object =>
      match object with
      | .coroutine body => do awaitAll fuel names (← awaitBody fuel names body)
      | _ => .ok ()

/-- Calls a function of the support module. -/
def support : (fuel : Nat) → Names → String → List Object → Except Raised Object
  | 0, _, _, _ => .error tooDeep
  | fuel + 1, names, function, args =>
      let ended : Except Raised Unit := match args with
        | [object, expected] => do Expect.text (← object.shown) expected.str
        | [thunk, name, message] =>
            let result := callObject fuel names thunk
            if function = "assert_error" then
              Expect.endedInCoroutine (result >>= awaitAll fuel names) name.str message.str
            else Expect.ended (result.map fun _ => ()) name.str message.str
        | _ => .ok ()
      ended.map fun _ => .none

/-- Runs a statement. -/
def runStmt : (fuel : Nat) → Names → Stmt → Except Raised Flow
  | 0, _, _ => .error tooDeep
  | fuel + 1, names, stmt =>
      match stmt with
      | .simple _ (.expr e) => (fun _ => .goesOn names) <$> eval fuel names e
      | .simple _ (.assign [⟨_, .name name⟩] value) =>
          (fun object => .goesOn (setKey name object names)) <$> eval fuel names value
      | .simple _ (.ret none) => .ok (.returned .none)
      | .simple _ (.ret (some e)) => .returned <$> eval fuel names e
      | .simple _ (.raise (some exception) _) =>
          match exception.raised? with
          | some raised => .error raised
          | none => .ok (.goesOn names)
      | .simple _ (.raise none _) =>
          .error { className := "RuntimeError", message := "No active exception to reraise" }
      | .compound _ (.function isAsync name _ _ _) blocks =>
          .ok (.goesOn (setKey name (.function isAsync (bodyOf blocks)) names))
      | .compound _ (.classDef name ..) blocks =>
          (fun _ => .goesOn (setKey name (.classObject name) names)) <$>
            runBody fuel names (bodyOf blocks)
      | .compound _ (.ifThen test) blocks => do
          let test ← eval fuel names test
          runBody fuel names (if test.isTrue then bodyOf blocks else orelseOf blocks)
      | .compound _ (.withItems false [(item, none)]) blocks =>
          match supportCall? item with
          | some (_, [name, message]) => do
              let name ← eval fuel names name
              let message ← eval fuel names message
              let result := runBody fuel names (bodyOf blocks)
              Expect.endedInBlock (result.map fun _ => ()) name.str message.str
              return .goesOn names
          | _ => .ok (.goesOn names)
      | _ => .ok (.goesOn names)

/-- Runs statements one after the other, until one returns. -/
def runBody : (fuel : Nat) → Names → List Stmt → Except Raised Flow
  | 0, _, _ => .error tooDeep
  | _ + 1, names, [] => .ok (.goesOn names)
  | fuel + 1, names, stmt :: rest => do
      match (← runStmt fuel names stmt) with
      | .goesOn names => runBody fuel names rest
      | .returned value => return .returned value

end

/-- A bound for the steps of a case: no function calls itself that deep. -/
def depth : Nat := 1000

/-- Runs the body of a case, which is a coroutine. -/
def runCase (body : List Stmt) : Except Raised Unit :=
  (runBody (depth + body.length) [] body).mapError Raised.leavingCoroutine |>.map fun _ => ()

end Evaluation

end DocSuite
