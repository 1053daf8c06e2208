import DocSuite.Value

/-!
Values as JSON in ASCII: characters beyond it are written as escapes of UTF-16 units. A set has no
form of its own and is written as the text of its literal form.
-/
namespace DocSuite.Json

open DocSuite.Text

/-- One UTF-16 unit as an escape. -/
def unitEscape (unit : Nat) : List Char := '\\' :: 'u' :: hexPadded 4 unit

def escapeChar (c : Char) : List Char :=
  let n := c.toNat
  match c with
  | '"' => ['\\', '"']
  | '\\' => ['\\', '\\']
  | '\n' => ['\\', 'n']
  | '\r' => ['\\', 'r']
  | '\t' => ['\\', 't']
  | '\x08' => ['\\', 'b']
  | '\x0c' => ['\\', 'f']
  | _ =>
      if 0x20 ≤ n ∧ n ≤ 0x7E then [c]
      else if n < 0x10000 then unitEscape n
      else
        let pair := n - 0x10000
        unitEscape (0xD800 + pair / 0x400) ++ unitEscape (0xDC00 + pair % 0x400)

def string (s : String) : String :=
  String.ofList ('"' :: s.toList.flatMap escapeChar ++ ['"'])

/-- A line break with the blanks of a level, if the text is laid out in lines. -/
def lineBreak (level : Option Nat) : String :=
  match level with
  | some level => "\n" ++ String.ofList (List.replicate (2 * level) ' ')
  | none => ""

/-- Items between brackets; in lines, each has one of its own. -/
def enclose (openWith closeWith : String) (level : Option Nat) (items : List String) : String :=
  if items.isEmpty then openWith ++ closeWith
  else
    let inner := lineBreak (level.map (· + 1))
    let comma := if level.isSome then "," else ", "
    openWith ++ inner ++ (comma ++ inner).intercalate items ++ lineBreak level ++ closeWith

mutual

/-- The text of a value, laid out in lines from a level on, or in one line. -/
def text (level : Option Nat) : Value → String
  | .none => "null"
  | .bool true => "true"
  | .bool false => "false"
  | .int n => Value.intText n
  | .float isNegative .infinite => if isNegative then "-Infinity" else "Infinity"
  | .float isNegative magnitude => Value.floatText isNegative magnitude
  | .text s => string s
  | .list items => enclose "[" "]" level (texts (level.map (· + 1)) items)
  | .dict entries => enclose "\x7b" "\x7d" level (entryTexts (level.map (· + 1)) entries)
  | .set items => string (Value.set items).repr

def texts (level : Option Nat) : List Value → List String
  | [] => []
  | v :: vs => text level v :: texts level vs

def entryTexts (level : Option Nat) : List (String × Value) → List String
  | [] => []
  | (key, v) :: rest => (string key ++ ": " ++ text level v) :: entryTexts level rest

end

/-- In lines, each level indented by two columns. -/
def pretty (v : Value) : String := text (some 0) v

/-- In one line. -/
def compact (v : Value) : String := text none v

end DocSuite.Json
