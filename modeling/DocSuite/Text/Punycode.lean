import DocSuite.Text.Identifier

/-!
Punycode: texts in other scripts written in letters, digits and hyphens. The basic characters come
first; behind the last hyphen, numbers say where further characters are inserted. Main statement:
reading stops at the first number that is incomplete.
-/
namespace DocSuite.Text.Punycode

/-- The value of a digit; the case of letters does not matter. -/
def digit? (c : Char) : Option Nat :=
  if isAsciiLetter c then some (c.toLower.toNat - 'a'.toNat)
  else if isDigit c then some (c.toNat - '0'.toNat + 26)
  else none

/-- The digit below which a number ends, at a place. -/
def threshold (place bias : Nat) : Nat :=
  let t : Int := 36 * (place + 1) - bias
  if t < 1 then 1 else if 26 < t then 26 else t.toNat

/-- Reads a number whose digits are weighted by their place. -/
def number? (bias : Nat) : (value weight place : Nat) → List Char → Option (Nat × List Char)
  | _, _, _, [] => none
  | value, weight, place, c :: cs => do
      let digit ← digit? c
      let value := value + digit * weight
      let t := threshold place bias
      if digit < t then some (value, cs)
      else number? bias value (weight * (36 - t)) (place + 1) cs

/-- Divides until the number is small; the second part counts the divisions. -/
def shrink : (fuel : Nat) → Nat → Nat → Nat × Nat
  | 0, delta, k => (delta, k)
  | fuel + 1, delta, k => if 455 < delta then shrink fuel (delta / 35) (k + 36) else (delta, k)

/-- The bias for the next number. -/
def adapt (delta : Nat) (isFirst : Bool) (count : Nat) : Nat :=
  let delta := if isFirst then delta / 700 else delta / 2
  let delta := delta + delta / count
  let (delta, k) := shrink delta delta 0
  k + 36 * delta / (delta + 38)

/-- Inserts the characters that the numbers name. `position` counts from one, zero stands before
the first. -/
def insertAll : (fuel : Nat) → (text : List Char) → (code position bias : Nat) → (isFirst : Bool) →
    List Char → Option (List Char)
  | _, text, _, _, _, _, [] => some text
  | 0, text, _, _, _, _, _ => some text
  | fuel + 1, text, code, position, bias, isFirst, cs => do
      let (delta, rest) ← number? bias 0 1 0 cs
      let place := position + delta
      let code := code + place / (text.length + 1)
      if 0x10FFFF < code ∨ (0xD800 ≤ code ∧ code ≤ 0xDFFF) then none
      else
        let place := place % (text.length + 1)
        let text := text.take place ++ Char.ofNat code :: text.drop place
        insertAll fuel text code (place + 1) (adapt delta isFirst text.length) false rest

/-- The text that is written. -/
def decode? (cs : List Char) : Option (List Char) :=
  if cs.any fun c => 0x80 ≤ c.toNat then none
  else
    match cs.reverse.dropWhile (· != '-') with
    | [] => insertAll cs.length [] 0x80 0 72 true cs
    | _ :: basic =>
        insertAll cs.length basic.reverse 0x80 0 72 true
          (cs.reverse.takeWhile (· != '-')).reverse

end DocSuite.Text.Punycode
