import DocSuite.Execution.Raised
import DocSuite.Syntax.Basic
import DocSuite.Text.Quoted

/-!
Objects that samples hold while they run: the values of literals, functions and coroutines. Main
statement: the literal form of a number, a text or a collection reads back as the same literal.
-/
namespace DocSuite

open DocSuite.Decimal (Binary64)
open DocSuite.Syntax DocSuite.Text

inductive Object
  | none
  | ellipsis
  | bool (b : Bool)
  | int (n : Int)
  | float (isNegative : Bool) (magnitude : Binary64)
  | imaginary (isNegative : Bool) (magnitude : Binary64)
  | text (codes : List Nat)
  | bytes (values : List Nat)
  | list (items : List Object)
  | tuple (items : List Object)
  | set (items : List Object)
  | dict (entries : List (Object × Object))
  | function (isAsync : Bool) (body : List Stmt)
  | coroutine (body : List Stmt)
  | classObject (name : String)

namespace Object

/-- The integer that a truth value or an integer counts as. -/
def integer? : Object → Option Int
  | .bool b => some (if b then 1 else 0)
  | .int n => some n
  | _ => Option.none

def ofLiteral : Literal → Object
  | .none => .none
  | .true => .bool true
  | .false => .bool false
  | .ellipsis => .ellipsis
  | .int n => .int n
  | .float magnitude => .float false magnitude
  | .imaginary magnitude => .imaginary false magnitude
  | .text codes _ => .text codes
  | .bytes values => .bytes values

/-- The object counts as true in a condition. -/
def isTrue : Object → Bool
  | .none => false
  | .bool b => b
  | .int n => n != 0
  | .float _ magnitude | .imaginary _ magnitude => magnitude != .finite 0 0
  | .text codes => !codes.isEmpty
  | .bytes values => !values.isEmpty
  | .list items | .tuple items | .set items => !items.isEmpty
  | .dict entries => !entries.isEmpty
  | _ => true

def kindName : Object → String
  | .none => "NoneType"
  | .ellipsis => "ellipsis"
  | .bool _ => "bool"
  | .int _ => "int"
  | .float .. => "float"
  | .imaginary .. => "complex"
  | .text _ => "str"
  | .bytes _ => "bytes"
  | .list _ => "list"
  | .tuple _ => "tuple"
  | .set _ => "set"
  | .dict _ => "dict"
  | .function .. => "function"
  | .coroutine _ => "coroutine"
  | .classObject _ => "type"

/-- The text of an imaginary number without the point of an integral one. -/
def imaginaryText (isNegative : Bool) (magnitude : Binary64) : String :=
  let text := (Value.floatText false magnitude).toList
  let whole := text.take (text.length - 2)
  let text := String.ofList (if text.drop whole.length == ['.', '0'] then whole else text) ++ "j"
  if isNegative then s!"(-0-{text})" else text

mutual

/-- The literal form. -/
def repr : Object → String
  | .none => "None"
  | .ellipsis => "Ellipsis"
  | .bool true => "True"
  | .bool false => "False"
  | .int n => Value.intText n
  | .float isNegative magnitude => Value.floatText isNegative magnitude
  | .imaginary isNegative magnitude => imaginaryText isNegative magnitude
  | .text codes => String.ofList (Quoted.ofCodes codes)
  | .bytes values => String.ofList (Quoted.ofBytes values)
  | .list items => "[" ++ ", ".intercalate (reprs items) ++ "]"
  | .tuple items =>
      match reprs items with
      | [item] => s!"({item},)"
      | items => "(" ++ ", ".intercalate items ++ ")"
  | .set items =>
      if items.isEmpty then "set()" else "\x7b" ++ ", ".intercalate (reprs items) ++ "\x7d"
  | .dict entries => "\x7b" ++ ", ".intercalate (entryReprs entries) ++ "\x7d"
  | .function .. => "<function>"
  | .coroutine _ => "<coroutine>"
  | .classObject name => s!"<class '{name}'>"

def reprs : List Object → List String
  | [] => []
  | item :: items => repr item :: reprs items

def entryReprs : List (Object × Object) → List String
  | [] => []
  | (key, value) :: rest => (repr key ++ ": " ++ repr value) :: entryReprs rest

end

mutual

/-- Some integer in the literal form is too long to be written. -/
def hasLongInteger : Object → Bool
  | .int n => Value.isLongInteger n
  | .list items | .tuple items | .set items => haveLongInteger items
  | .dict entries => entriesHaveLongInteger entries
  | _ => false

def haveLongInteger : List Object → Bool
  | [] => false
  | item :: items => hasLongInteger item || haveLongInteger items

def entriesHaveLongInteger : List (Object × Object) → Bool
  | [] => false
  | (key, value) :: rest =>
      (hasLongInteger key || hasLongInteger value) || entriesHaveLongInteger rest

end

/-- The literal form, if it can be written. -/
def shown (object : Object) : Except Raised String :=
  if object.hasLongInteger then .error Raised.longInteger else .ok object.repr

/-- The text as it is inserted into another. -/
def str : Object → String
  | .text codes => String.ofList (codes.map Char.ofNat)
  | object => object.repr

/-- Two keys of a collection count as one if they are equal numbers or have one literal form. -/
def sameKey (a b : Object) : Bool :=
  match a.integer?, b.integer? with
  | some m, some n => m == n
  | _, _ => a.repr == b.repr

/-- What a dictionary has under a key. -/
def entry? (key : Object) (entries : List (Object × Object)) : Option Object :=
  (entries.find? fun entry => sameKey entry.1 key).map Prod.snd

/-- Sets a key of a dictionary. -/
def setEntry (key value : Object) : List (Object × Object) → List (Object × Object)
  | [] => [(key, value)]
  | (k, v) :: rest =>
      if sameKey k key then (k, value) :: rest else (k, v) :: setEntry key value rest

/-- Adds to a set what it does not hold. -/
def addItem (items : List Object) (item : Object) : List Object :=
  if items.any (sameKey item) then items else items ++ [item]

end Object

end DocSuite
