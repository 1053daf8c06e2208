import DocSuite.Text.Quoted

/-!
Values of TOML documents. Tables keep their keys in the order in which they were set. A path of
keys that was declared as a table, or that holds a value written in one piece, is marked. Main
statement: a key is set once.
-/
namespace DocSuite.Toml

open DocSuite.Text

inductive Value
  | text (s : String)
  | integer (n : Int)
  | float (text : List Char)
  | boolean (b : Bool)
  | dateTime (text : List Char)
  | date (text : List Char)
  | time (text : List Char)
  | array (items : List Value)
  | table (entries : List (String × Value))
  deriving Repr

abbrev Table := List (String × Value)

abbrev Key := List String

/-- The key as it is shown in messages. -/
def keyText (key : Key) : String :=
  match key with
  | [name] => s!"({quoted name},)"
  | _ => "(" ++ ", ".intercalate (key.map quoted) ++ ")"

namespace Table

def get? (table : Table) (name : String) : Option Value := table.lookup name

/-- Replaces the value of a key, or adds the key. -/
def set (name : String) (value : Value) : Table → Table
  | [] => [(name, value)]
  | (key, old) :: rest =>
      if key = name then (key, value) :: rest else (key, old) :: set name value rest

/-- Changes the table that a key leads to; tables on the way are made. In a list of tables the way
leads through the last one, if `throughLists` says so. -/
def update? (throughLists : Bool) (change : Table → Option Table) : Key → Table → Option Table
  | [], table => change table
  | name :: key, table =>
      match table.get? name with
      | none => (update? throughLists change key []).map fun inner => table.set name (.table inner)
      | some (.table inner) =>
          (update? throughLists change key inner).map fun inner => table.set name (.table inner)
      | some (.array items) =>
          match throughLists, items.getLast? with
          | true, some (.table inner) =>
              (update? throughLists change key inner).map fun inner =>
                table.set name (.array (items.dropLast ++ [.table inner]))
          | _, _ => none
      | some _ => none

/-- Sets a key that is not set yet. -/
def insert? (name : String) (value : Value) (table : Table) : Option Table :=
  if (table.get? name).isSome then none else some (table.set name value)

/-- Adds an empty table to the list behind a key. -/
def appendTable? (name : String) (table : Table) : Option Table :=
  match table.get? name with
  | none => some (table.set name (.array [.table []]))
  | some (.array items) => some (table.set name (.array (items ++ [.table []])))
  | some _ => none

end Table

/-- Keys that must not be declared or extended again. -/
structure Marks where
  /-- Declared as tables. -/
  declared : List Key := []
  /-- Written in one piece, with all keys below them. -/
  frozen : List Key := []
  deriving Repr

namespace Marks

def isDeclared (marks : Marks) (key : Key) : Bool := marks.declared.contains key

def isFrozen (marks : Marks) (key : Key) : Bool := marks.frozen.any fun k => k.isPrefixOf key

/-- Forgets a key and those below it. -/
def clear (marks : Marks) (key : Key) : Marks :=
  ⟨marks.declared.filter fun k => !key.isPrefixOf k, marks.frozen.filter fun k => !key.isPrefixOf k⟩

def declare (marks : Marks) (key : Key) : Marks := { marks with declared := key :: marks.declared }

def freeze (marks : Marks) (key : Key) : Marks := { marks with frozen := key :: marks.frozen }

end Marks

/-- Why a document is not well-formed. -/
inductive Reason
  | statement
  | lineEnd
  | keyStart
  | equals
  | value
  | tableEnd
  | listEnd
  | redeclared (key : Key)
  | redefined (key : Key)
  | immutable (key : Key)
  | overwritten
  | duplicate (name : String)
  | openArray
  | openTable
  | openText
  | expected (mark : String)
  | escape
  | hexadecimal
  | scalar
  | illegal (c : Char)
  | invalid (c : Char)
  | date
  deriving DecidableEq, Repr

def Reason.text : Reason → String
  | .statement => "Invalid statement"
  | .lineEnd => "Expected newline or end of document after a statement"
  | .keyStart => "Invalid initial character for a key part"
  | .equals => "Expected '=' after a key in a key/value pair"
  | .value => "Invalid value"
  | .tableEnd => "Expected ']' at the end of a table declaration"
  | .listEnd => "Expected ']]' at the end of an array declaration"
  | .redeclared key => s!"Cannot declare {keyText key} twice"
  | .redefined key => s!"Cannot redefine namespace {keyText key}"
  | .immutable key => s!"Cannot mutate immutable namespace {keyText key}"
  | .overwritten => "Cannot overwrite a value"
  | .duplicate name => s!"Duplicate inline table key {quoted name}"
  | .openArray => "Unclosed array"
  | .openTable => "Unclosed inline table"
  | .openText => "Unterminated string"
  | .expected mark => s!"Expected {quoted mark}"
  | .escape => "Unescaped '\\' in a string"
  | .hexadecimal => "Invalid hex value"
  | .scalar => "Escaped character is not a Unicode scalar value"
  | .illegal c => s!"Illegal character {quoted (String.singleton c)}"
  | .invalid c => s!"Found invalid character {quoted (String.singleton c)}"
  | .date => "Invalid date or datetime"

/-- What is wrong with a document. `left`: how many characters are left from the place on. -/
inductive Fault
  | malformed (reason : Reason) (left : Nat)
  | longInteger (digits : Nat)
  deriving DecidableEq, Repr

/-- Line breaks of two characters count as one. -/
def joinBreaks : List Char → List Char
  | '\r' :: '\n' :: cs => '\n' :: joinBreaks cs
  | c :: cs => c :: joinBreaks cs
  | [] => []

/-- The place in a text from which a number of characters is left. -/
def placeText (text : List Char) (left : Nat) : String :=
  if left = 0 then "end of document"
  else
    let before := text.take (text.length - left)
    let line := before.count '\n' + 1
    let column := (before.reverse.takeWhile (· != '\n')).length + 1
    s!"line {line}, column {column}"

def Fault.message (text : List Char) : Fault → String
  | .malformed reason left => s!"{reason.text} (at {placeText (joinBreaks text) left})"
  | .longInteger digits =>
      "Exceeds the limit (4300 digits) for integer string conversion: " ++
        s!"value has {digits} digits; use sys.set_int_max_str_digits() to increase the limit"

end DocSuite.Toml
