import DocSuite.Json
import DocSuite.Syntax.Literal

/-!
Reading values from JSON. Numbers with a point or an exponent are floats, the others integers.
Main statement: reading takes a value from the front of a text and leaves the rest.
-/
namespace DocSuite.Json

open DocSuite.Text

def isJsonBlank (c : Char) : Bool := c == ' ' || c == '\n' || c == '\r' || c == '\t'

def skipBlanks (cs : List Char) : List Char := cs.dropWhile isJsonBlank

/-- The character of a surrogate pair. -/
def pairChar (high low : Nat) : Char :=
  Char.ofNat (0x10000 + (high - 0xD800) * 0x400 + (low - 0xDC00))

/-- The character that a short escape stands for. -/
def shortEscape : Char → Char
  | 'n' => '\n'
  | 't' => '\t'
  | 'r' => '\r'
  | 'b' => '\x08'
  | 'f' => '\x0c'
  | c => c

def isHigh (unit : Nat) : Bool := 0xD800 ≤ unit && unit < 0xDC00

def isLow (unit : Nat) : Bool := 0xDC00 ≤ unit && unit < 0xE000

/-- Adds the character of an escape to those before, which are in reverse. The high half of a pair
waits for the low one. -/
def addUnit (high? : Option Nat) (before : List Char) (unit : Nat) : Option Nat × List Char :=
  match high? with
  | some high =>
      if isLow unit then (none, pairChar high unit :: before) else (none, Char.ofNat unit :: before)
  | none => if isHigh unit then (some unit, before) else (none, Char.ofNat unit :: before)

/-- Reads a string behind its opening quote; the characters before are in reverse. -/
def readString (high? : Option Nat) (before : List Char) :
    List Char → Option (String × List Char)
  | '"' :: cs => some (String.ofList before.reverse, cs)
  | '\\' :: 'u' :: a :: b :: c :: d :: cs =>
      let (high?, before) := addUnit high? before (ofHex [a, b, c, d])
      readString high? before cs
  | '\\' :: c :: cs => readString none (shortEscape c :: before) cs
  | c :: cs => readString none (c :: before) cs
  | [] => none

def isNumberPart (c : Char) : Bool := isDigit c || "+-.eE".toList.contains c

/-- Reads a number. -/
def readNumber (cs : List Char) : Option (Value × List Char) :=
  let number := cs.takeWhile isNumberPart
  let rest := cs.dropWhile isNumberPart
  let isNegative := number.head? == some '-'
  let digits := if isNegative then number.drop 1 else number
  if digits.isEmpty then none
  else if digits.all isDigit then
    let n : Int := Syntax.digitsValue 10 digits
    some (.int (if isNegative then -n else n), rest)
  else some (.float isNegative (Syntax.decimalValue digits), rest)

/-- Reads the key of an entry with its colon. -/
def readKey (cs : List Char) : Option (String × List Char) :=
  match skipBlanks cs with
  | '"' :: cs => do
      let (key, cs) ← readString none [] cs
      match skipBlanks cs with
      | ':' :: cs => some (key, cs)
      | _ => none
  | _ => none

mutual

/-- Reads a value. Each step of the fuel reads a character at least. -/
def readValue : (fuel : Nat) → List Char → Option (Value × List Char)
  | 0, _ => none
  | fuel + 1, cs =>
      match skipBlanks cs with
      | 'n' :: 'u' :: 'l' :: 'l' :: cs => some (.none, cs)
      | 't' :: 'r' :: 'u' :: 'e' :: cs => some (.bool true, cs)
      | 'f' :: 'a' :: 'l' :: 's' :: 'e' :: cs => some (.bool false, cs)
      | '"' :: cs => (readString none [] cs).map fun (s, cs) => (.text s, cs)
      | '[' :: cs =>
          match skipBlanks cs with
          | ']' :: cs => some (.list [], cs)
          | cs => readItems fuel [] cs
      | '{' :: cs =>
          match skipBlanks cs with
          | '}' :: cs => some (.dict [], cs)
          | cs => readEntries fuel [] cs
      | cs => readNumber cs

/-- Reads items up to the closing bracket. -/
def readItems : (fuel : Nat) → List Value → List Char → Option (Value × List Char)
  | 0, _, _ => none
  | fuel + 1, before, cs => do
      let (v, cs) ← readValue fuel cs
      match skipBlanks cs with
      | ',' :: cs => readItems fuel (v :: before) cs
      | ']' :: cs => some (.list (v :: before).reverse, cs)
      | _ => none

/-- Reads entries up to the closing brace. -/
def readEntries : (fuel : Nat) → List (String × Value) → List Char →
    Option (Value × List Char)
  | 0, _, _ => none
  | fuel + 1, before, cs => do
      let (key, cs) ← readKey cs
      let (v, cs) ← readValue fuel cs
      match skipBlanks cs with
      | ',' :: cs => readEntries fuel ((key, v) :: before) cs
      | '}' :: cs => some (.dict ((key, v) :: before).reverse, cs)
      | _ => none

end

/-- The value that a text starts with. -/
def read? (text : String) : Option Value :=
  (readValue (text.length + 1) text.toList).map Prod.fst

end DocSuite.Json
