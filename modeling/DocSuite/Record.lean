import DocSuite.Json

/-!
Records: values for the named fields of a type. Some fields have a default, the others have to be
given. Main statement: a record has the fields of its type, in their order.
-/
namespace DocSuite

open DocSuite.Text

structure Field where
  name : String
  default : Option Value := none

structure RecordType where
  name : String
  fields : List Field

inductive RecordFault
  /-- A value is given for a field that the type does not have. -/
  | unexpected (type field : String)
  | missing (type : String) (fields : List String)
  deriving DecidableEq, Repr

namespace RecordFault

/-- Names in a sentence. -/
def enumeration : List String → String
  | [] => ""
  | [a] => quoted a
  | [a, b] => quoted a ++ " and " ++ quoted b
  | names =>
      ", ".intercalate (names.dropLast.map quoted) ++ ", and " ++ quoted (names.getLast?.getD "")

def message : RecordFault → String
  | unexpected type field =>
      s!"{type}.__init__() got an unexpected keyword argument {quoted field}"
  | missing type fields =>
      let plural := if fields.length = 1 then "" else "s"
      s!"{type}.__init__() missing {fields.length} required positional argument{plural}: " ++
        enumeration fields

end RecordFault

namespace RecordType

/-- The fields that are given no value and have no default. -/
def missing (type : RecordType) (given : List (String × Value)) : List String :=
  (type.fields.filter fun field => field.default.isNone && (given.lookup field.name).isNone).map
    Field.name

/-- The record with the values that are given. -/
def make (type : RecordType) (given : List (String × Value)) :
    Except RecordFault (List (String × Value)) :=
  match given.find? fun entry => !type.fields.any fun field => field.name == entry.1 with
  | some (name, _) => .error (.unexpected type.name name)
  | none =>
      let missing := type.missing given
      if missing.isEmpty then
        .ok (type.fields.map fun field =>
          (field.name, ((given.lookup field.name).or field.default).getD .none))
      else .error (.missing type.name missing)

/-- A code block of a document. -/
def sample : RecordType :=
  ⟨"Sample", [⟨"title", none⟩, ⟨"language", none⟩, ⟨"source", none⟩, ⟨"line", some .none⟩]⟩

def comment : RecordType := ⟨"Comment", [⟨"text", none⟩, ⟨"line", none⟩, ⟨"column", none⟩]⟩

def valueExpectation : RecordType := ⟨"ReprAnnotation", [⟨"expected", none⟩]⟩

def errorExpectation : RecordType := ⟨"ErrorAnnotation", [⟨"name", none⟩, ⟨"message", none⟩]⟩

/-- A case of a suite. -/
def case : RecordType :=
  ⟨"TestCase", [⟨"title", none⟩, ⟨"body", none⟩, ⟨"is_async", some (.bool true)⟩]⟩

end RecordType

end DocSuite
