import DocSuite.Decimal.Binary64
import DocSuite.Text.Quoted

/-!
Values of options, of the context of an error and of log records: data without a fixed shape, with
the two texts that it has. The text of a string is the string, its literal form is quoted.
-/
namespace DocSuite

open DocSuite.Text

inductive Value
  | none
  | bool (b : Bool)
  | int (n : Int)
  | float (isNegative : Bool) (magnitude : Decimal.Binary64)
  | text (s : String)
  | list (items : List Value)
  /-- Keys in the order of their insertion. -/
  | dict (entries : List (String × Value))
  /-- Different values, in the order of their texts. -/
  | set (items : List Value)
  deriving Repr

namespace Value

def intText (n : Int) : String :=
  let digits := String.ofList (Nat.toDigits 10 n.natAbs)
  if n < 0 then "-" ++ digits else digits

def floatText (isNegative : Bool) (magnitude : Decimal.Binary64) : String :=
  let digits := match magnitude with
    | .infinite => "inf"
    | .finite .. => magnitude.text
  if isNegative then "-" ++ digits else digits

mutual

/-- The literal form. -/
def repr : Value → String
  | .none => "None"
  | .bool true => "True"
  | .bool false => "False"
  | .int n => intText n
  | .float isNegative magnitude => floatText isNegative magnitude
  | .text s => quoted s
  | .list items => "[" ++ ", ".intercalate (reprs items) ++ "]"
  | .dict entries => "\x7b" ++ ", ".intercalate (entryReprs entries) ++ "\x7d"
  | .set items =>
      if items.isEmpty then "frozenset()"
      else "frozenset(\x7b" ++ ", ".intercalate (reprs items) ++ "\x7d)"

def reprs : List Value → List String
  | [] => []
  | v :: vs => repr v :: reprs vs

def entryReprs : List (String × Value) → List String
  | [] => []
  | (key, v) :: rest => (quoted key ++ ": " ++ repr v) :: entryReprs rest

end

/-- The text as it is inserted into a message. -/
def str : Value → String
  | .text s => s
  | v => v.repr

/-- Integers of more than 4300 digits are not written. -/
def isLongInteger (n : Int) : Bool := decide (Nat.pow 10 4300 ≤ n.natAbs)

mutual

/-- Some integer in the literal form is too long to be written. -/
def hasLongInteger : Value → Bool
  | .int n => isLongInteger n
  | .list items | .set items => haveLongInteger items
  | .dict entries => entriesHaveLongInteger entries
  | .none | .bool _ | .float .. | .text _ => false

def haveLongInteger : List Value → Bool
  | [] => false
  | v :: vs => hasLongInteger v || haveLongInteger vs

def entriesHaveLongInteger : List (String × Value) → Bool
  | [] => false
  | (_, v) :: rest => hasLongInteger v || entriesHaveLongInteger rest

end

/-- Values that count as absent where a default can stand in. -/
def isEmpty : Value → Bool
  | .none => true
  | .bool b => !b
  | .int n => n == 0
  | .float _ magnitude => magnitude == .finite 0 0
  | .text s => s.isEmpty
  | .list items => items.isEmpty
  | .dict entries => entries.isEmpty
  | .set items => items.isEmpty

def ofOption {α : Type} (f : α → Value) : Option α → Value
  | some a => f a
  | Option.none => .none

/-- The integer that a number equals, when it is one. -/
def integer? : Value → Option Int
  | .bool b => some (if b then 1 else 0)
  | .int n => some n
  | .float isNegative magnitude =>
      magnitude.toNat?.map fun n => if isNegative then -(n : Int) else n
  | _ => Option.none

mutual

/-- The values count as one. Numbers do if they are equal, whatever their kinds, and so do truth
values and the numbers for them. -/
def same (v w : Value) : Bool :=
  match v with
  | .none =>
      match w with
      | .none => true
      | _ => false
  | .text s =>
      match w with
      | .text t => s == t
      | _ => false
  | .list items =>
      match w with
      | .list others => sameItems items others
      | _ => false
  | .dict entries =>
      match w with
      | .dict others => entries.length == others.length && sameEntries entries others
      | _ => false
  | .set items =>
      match w with
      | .set others => sameItems items others
      | _ => false
  | v =>
      match v.integer?, w.integer? with
      | some m, some n => m == n
      | Option.none, Option.none =>
          match v, w with
          | .float isNegative magnitude, .float isNegative' magnitude' =>
              isNegative == isNegative' && magnitude == magnitude'
          | _, _ => false
      | _, _ => false

def sameItems : List Value → List Value → Bool
  | [], [] => true
  | v :: vs, w :: ws => same v w && sameItems vs ws
  | _, _ => false

def sameEntries : List (String × Value) → List (String × Value) → Bool
  | [], _ => true
  | (key, v) :: rest, others =>
      match others.lookup key with
      | some w => same v w && sameEntries rest others
      | Option.none => false

end

/-- Keeps the first of the values that count as one. -/
def distinct (values : List Value) : List Value :=
  values.foldl (fun kept v => if kept.any fun w => same w v then kept else kept ++ [v]) []

/-- What the kind of a value is called in messages. -/
def kindName : Value → String
  | .none => "NoneType"
  | .bool _ => "bool"
  | .int _ => "int"
  | .float .. => "float"
  | .text _ => "str"
  | .list _ => "list"
  | .dict _ => "dict"
  | .set _ => "frozenset"

end Value

/-- Sets a key in a list of pairs: in its place if it is there, else at the end. -/
def setKey {α : Type} (key : String) (value : α) : List (String × α) → List (String × α)
  | [] => [(key, value)]
  | (k, v) :: rest => if k = key then (k, value) :: rest else (k, v) :: setKey key value rest

section

variable {α : Type} {key other : String} {entries : List (String × α)}

theorem lookup_setKey (key : String) (value : α) (entries : List (String × α)) :
    (setKey key value entries).lookup key = some value := by
  induction entries with
  | nil => simp [setKey]
  | cons entry rest ih =>
    obtain ⟨k, v⟩ := entry
    simp only [setKey]
    split
    next hk => simp [hk]
    next hk =>
      rw [List.lookup_cons, beq_false_of_ne (Ne.symm hk)]
      exact ih

theorem lookup_setKey_of_ne (h : other ≠ key) (value : α) :
    (setKey key value entries).lookup other = entries.lookup other := by
  have hb : (other == key) = false := beq_false_of_ne h
  induction entries with
  | nil => simp [setKey, List.lookup_cons, hb]
  | cons entry rest ih =>
    obtain ⟨k, v⟩ := entry
    simp only [setKey]
    split
    next hk => rw [List.lookup_cons, List.lookup_cons, hk, hb]
    next hk => rw [List.lookup_cons, List.lookup_cons, ih]

end

end DocSuite
