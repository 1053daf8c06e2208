import DocSuite.Syntax.Fault
import DocSuite.Syntax.Basic
import DocSuite.Text.CharacterName
import DocSuite.Text.Identifier

/-!
The values that the spellings of numbers and strings stand for. Places inside a text are counted
after each character beyond ASCII has been spelled as an escape of ten characters.
-/
namespace DocSuite.Syntax

open DocSuite.Text
open DocSuite.Decimal (Binary64)

/-! ### Numbers -/

def digitsValue (radix : Nat) (digits : List Char) : Nat :=
  digits.foldl (fun n c => radix * n + (hexDigit? c).getD 0) 0

/-- The mantissa and the exponent of a decimal, which stands behind an `e`. -/
def decimalValue (text : List Char) : Binary64 :=
  let mantissa := text.takeWhile fun c => c != 'e' && c != 'E'
  let whole := mantissa.takeWhile (· != '.')
  let fraction := mantissa.drop (whole.length + 1)
  let exponent : Int := match text.drop (mantissa.length + 1) with
    | '-' :: digits => -(digitsValue 10 digits : Int)
    | '+' :: digits => digitsValue 10 digits
    | digits => digitsValue 10 digits
  Binary64.ofDecimal (digitsValue 10 (whole ++ fraction)) (exponent - fraction.length)

/-- The value of a number as it is spelled. -/
def numberLiteral (spelling : List Char) : Except Fault Literal :=
  let text := spelling.filter (· != '_')
  match text with
  | '0' :: 'x' :: digits | '0' :: 'X' :: digits => .ok (.int (digitsValue 16 digits))
  | '0' :: 'o' :: digits | '0' :: 'O' :: digits => .ok (.int (digitsValue 8 digits))
  | '0' :: 'b' :: digits | '0' :: 'B' :: digits => .ok (.int (digitsValue 2 digits))
  | _ =>
      match text.getLast? with
      | some 'j' | some 'J' => .ok (.imaginary (decimalValue text.dropLast))
      | _ =>
          if text.all isDigit then
            let digits := text.dropWhile (· == '0')
            if 4300 < digits.length then .error (.hugeInteger digits.length)
            else .ok (.int (digitsValue 10 digits))
          else .ok (.float (decimalValue text))

/-! ### Parts of a string -/

/-- A string as it is spelled: the letters in front of the quotes and what stands between. -/
structure StringParts where
  isRaw : Bool
  isBytes : Bool
  isInterpolated : Bool
  body : List Char

def StringParts.read (spelling : List Char) : StringParts :=
  let letters := spelling.takeWhile isAsciiLetter
  let has (c d : Char) := letters.any fun letter => letter == c || letter == d
  let quoted := spelling.drop letters.length
  let width := match quoted with
    | a :: b :: c :: _ => if a = b ∧ b = c ∧ 6 ≤ quoted.length then 3 else 1
    | _ => 1
  { isRaw := has 'r' 'R', isBytes := has 'b' 'B', isInterpolated := has 'f' 'F'
    body := (quoted.drop width).take (quoted.length - 2 * width) }

/-! ### Escapes -/

/-- The character of an escape with one letter. -/
def simpleEscape? (c : Char) : Option Nat :=
  match c with
  | '\\' => some 92
  | '\'' => some 39
  | '"' => some 34
  | 'b' => some 8
  | 'f' => some 12
  | 't' => some 9
  | 'n' => some 10
  | 'r' => some 13
  | 'v' => some 11
  | 'a' => some 7
  | _ => none

def isOctal (c : Char) : Bool := '0' ≤ c && c ≤ '7'

/-- At most `n` leading characters that pass a test, and the rest. -/
def takeSome (ok : Char → Bool) : Nat → List Char → List Char × List Char
  | 0, cs => ([], cs)
  | _ + 1, [] => ([], [])
  | n + 1, c :: cs =>
      if ok c then
        let (taken, rest) := takeSome ok n cs
        (c :: taken, rest)
      else ([], c :: cs)

/-- Characters beyond ASCII become escapes, and so does a backslash in front of one or at the
end. -/
def spellAscii : List Char → List Char
  | [] => []
  | ['\\'] => ['\\', 'u', '0', '0', '5', 'c']
  | '\\' :: c :: cs =>
      if c.toNat < 0x80 then '\\' :: c :: spellAscii cs
      else ['\\', 'u', '0', '0', '5', 'c'] ++ ('\\' :: 'U' :: hexPadded 8 c.toNat) ++ spellAscii cs
  | c :: cs =>
      if c.toNat < 0x80 then c :: spellAscii cs
      else ('\\' :: 'U' :: hexPadded 8 c.toNat) ++ spellAscii cs

/-- The code of `count` hexadecimal digits. -/
def hexEscape (start count : Nat) (reason : EscapeFault) (cs : List Char) :
    Except Fault (Nat × List Char) :=
  let (digits, rest) := takeSome (fun c => (hexDigit? c).isSome) count cs
  if digits.length < count then .error (.escape start (start + 1 + digits.length) reason)
  else
    let code := digitsValue 16 digits
    if 0x10FFFF < code then .error (.escape start (start + 1 + count) .beyondUnicode)
    else .ok (code, rest)

/-- The code points of a text whose escapes are decoded, read from a place on. Each step of the
fuel reads a character. -/
def decodeEscapes : (fuel place : Nat) → List Char → Except Fault (List Nat)
  | 0, _, _ => .ok []
  | _, _, [] => .ok []
  | fuel + 1, place, '\\' :: c :: cs =>
      let next (code : Nat) (rest : List Char) : Except Fault (List Nat) := do
        let read := (cs.length + 2) - rest.length
        return code :: (← decodeEscapes fuel (place + read) rest)
      match simpleEscape? c with
      | some code => next code cs
      | none =>
          if c = '\n' then decodeEscapes fuel (place + 2) cs
          else if isOctal c then
            let (more, rest) := takeSome isOctal 2 cs
            next (digitsValue 8 (c :: more)) rest
          else
            match c with
            | 'x' => do
                let (code, rest) ← hexEscape place 2 .shortByte cs
                next code rest
            | 'u' => do
                let (code, rest) ← hexEscape place 4 .shortFour cs
                next code rest
            | 'U' => do
                let (code, rest) ← hexEscape place 8 .shortEight cs
                next code rest
            | 'N' =>
                match cs with
                | '{' :: inner =>
                    let name := inner.takeWhile (· != '}')
                    let rest := inner.drop (name.length + 1)
                    if name.length = inner.length then
                      .error (.escape place (place + 2 + name.length) .malformedName)
                    else if name.isEmpty then .error (.escape place (place + 2) .malformedName)
                    else
                      match characterNamed? name with
                      | some code => next code rest
                      | none => .error (.escape place (place + 3 + name.length) .unknownName)
                | _ => .error (.escape place (place + 1) .malformedName)
            | _ => do return 92 :: (← next c.toNat cs)
  | fuel + 1, place, c :: cs => do
      return c.toNat :: (← decodeEscapes fuel (place + 1) cs)

/-- The code points that the body of a string stands for. -/
def textValue (isRaw : Bool) (body : List Char) : Except Fault (List Nat) :=
  if isRaw || !body.contains '\\' then .ok (codes body)
  else
    let spelled := spellAscii body
    decodeEscapes spelled.length 0 spelled

/-- The bytes that the body of a byte string stands for, read from a place on. -/
def decodeByteEscapes : (fuel place : Nat) → List Char → Except Fault (List Nat)
  | 0, _, _ => .ok []
  | _, _, [] => .ok []
  | fuel + 1, place, '\\' :: c :: cs =>
      let next (byte : Nat) (rest : List Char) : Except Fault (List Nat) := do
        let read := (cs.length + 2) - rest.length
        return byte % 256 :: (← decodeByteEscapes fuel (place + read) rest)
      match simpleEscape? c with
      | some code => next code cs
      | none =>
          if c = '\n' then decodeByteEscapes fuel (place + 2) cs
          else if isOctal c then
            let (more, rest) := takeSome isOctal 2 cs
            next (digitsValue 8 (c :: more)) rest
          else if c = 'x' then
            let (digits, rest) := takeSome (fun c => (hexDigit? c).isSome) 2 cs
            if digits.length = 2 then next (digitsValue 16 digits) rest
            else .error (.byteEscape place)
          else do return 92 :: (← next c.toNat cs)
  | fuel + 1, place, c :: cs => do
      return c.toNat :: (← decodeByteEscapes fuel (place + 1) cs)

def bytesValue (isRaw : Bool) (body : List Char) : Except Fault (List Nat) :=
  if isRaw || !body.contains '\\' then .ok (codes body)
  else decodeByteEscapes body.length 0 body

end DocSuite.Syntax
