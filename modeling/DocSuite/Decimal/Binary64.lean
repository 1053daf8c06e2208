/-!
Double-precision numbers that are not negative, as exact values. Reading a decimal rounds
to the nearest, a half to the even significand; writing chooses the fewest digits that
read back.
-/
namespace DocSuite.Decimal

/-- A significand times a power of two, or infinity. -/
inductive Binary64
  | finite (significand : Nat) (exponent : Int)
  | infinite
  deriving DecidableEq, Repr

namespace Binary64

/-- The quotient, rounded to the nearest integer; a half goes to the even one. -/
def roundQuotient (num den : Nat) : Nat :=
  let q := num / den
  let twice := 2 * (num % den)
  if twice < den then q
  else if twice = den then q + q % 2
  else q + 1

def twoTo (n : Nat) : Nat := Nat.pow 2 n

def tenTo (n : Nat) : Nat := Nat.pow 10 n

/-- Numerator and denominator of `num / den / 2 ^ e`. -/
def scale (num den : Nat) (e : Int) : Nat × Nat :=
  if e < 0 then (num * twoTo e.natAbs, den) else (num, den * twoTo e.natAbs)

/-- Raises the exponent until the integral part has at most 53 bits. -/
def fitExponent (num den : Nat) : Nat → Int → Int
  | 0, e => e
  | fuel + 1, e =>
      let (n, d) := scale num den e
      if n / d < twoTo 53 then e else fitExponent num den fuel (e + 1)

/-- The double nearest to a quotient. -/
def ofQuotient (num den : Nat) : Binary64 :=
  if num = 0 then .finite 0 0
  else
    let first := max ((Nat.log2 num : Int) - Nat.log2 den - 53) (-1074)
    let e := fitExponent num den 3 first
    let (n, d) := scale num den e
    let m := roundQuotient n d
    let (m, e) := if m = twoTo 53 then (twoTo 52, e + 1) else (m, e)
    if e > 971 then .infinite else .finite m e

/-- The double nearest to `digits * 10 ^ exponent`. An exponent that is out of range by far
is decided without computing the power. -/
def ofDecimal (digits : Nat) (exponent : Int) : Binary64 :=
  if digits = 0 then .finite 0 0
  else
    let magnitude := ((Nat.toDigits 10 digits).length : Int) + exponent
    if magnitude > 400 then .infinite
    else if magnitude < -400 then .finite 0 0
    else if exponent < 0 then ofQuotient digits (tenTo exponent.natAbs)
    else ofQuotient (digits * tenTo exponent.natAbs) 1

def ofNat (n : Nat) : Binary64 := ofQuotient n 1

/-- The integer that a finite value equals, when it is one. -/
def toNat? : Binary64 → Option Nat
  | .infinite => none
  | .finite m e =>
      if e ≥ 0 then some (m * twoTo e.natAbs)
      else if m % twoTo e.natAbs = 0 then some (m / twoTo e.natAbs) else none

/-- The decimal digits of a significand with the place of the point before them. -/
structure Digits where
  digits : List Char
  point : Int

/-- The place of the decimal point of `m * 2 ^ e`: one more than the exponent of its first
digit. -/
def pointOf (m : Nat) (e : Int) : Int :=
  let scaled := if e < 0 then m * tenTo 400 / twoTo e.natAbs else m * tenTo 400 * twoTo e.natAbs
  ((Nat.toDigits 10 scaled).length : Int) - 400

/-- The value on the grid of `n` digits that is nearest among those that read back. -/
def onGrid (m : Nat) (e : Int) (point : Int) (n : Nat) : Option Nat :=
  let unit := point - n
  -- All quantities are multiplied by `4 / 2 ^ e / 10 ^ unit`.
  let up := (if e < 0 then 1 else twoTo e.natAbs) * (if unit < 0 then tenTo unit.natAbs else 1)
  let down := (if e < 0 then twoTo e.natAbs else 1) * (if unit < 0 then 1 else tenTo unit.natAbs)
  let value := 4 * m * up
  let low := (4 * m - (if m = twoTo 52 ∧ e > -1074 then 1 else 2)) * up
  let high := (4 * m + 2) * up
  let inside (d : Nat) : Bool :=
    let x := 4 * d * down
    if m % 2 = 0 then low ≤ x && x ≤ high else low < x && x < high
  let d := value / (4 * down)
  let below := value - 4 * d * down
  let above := 4 * (d + 1) * down - value
  if inside d && inside (d + 1) then
    if below < above || (below = above && d % 2 = 0) then some d else some (d + 1)
  else if inside d then some d
  else if inside (d + 1) then some (d + 1)
  else none

/-- Tries grids of more and more digits. -/
def shortestFrom (m : Nat) (e : Int) (point : Int) : Nat → Nat → Nat × Nat
  | 0, n => ((onGrid m e point n).getD 0, n)
  | fuel + 1, n =>
      match onGrid m e point n with
      | some d => if d = 0 then shortestFrom m e point fuel (n + 1) else (d, n)
      | none => shortestFrom m e point fuel (n + 1)

/-- The fewest digits that read back, without zeros at the end. -/
def shortest (m : Nat) (e : Int) : Digits :=
  if m = 0 then ⟨['0'], 1⟩
  else
    let point := pointOf m e
    let (d, n) := shortestFrom m e point 17 1
    let digits := Nat.toDigits 10 d
    let point := point + ((digits.length : Int) - n)
    ⟨(digits.reverse.dropWhile (· = '0')).reverse, point⟩

/-- An exponent with its sign and at least two digits. -/
def exponentText (e : Int) : List Char :=
  let digits := Nat.toDigits 10 e.natAbs
  (if e < 0 then '-' else '+') :: (if digits.length < 2 then '0' :: digits else digits)

/-- Positional from `1e-4` up to below `1e16`, else with an exponent; `pointZero` marks a whole
number by `.0`. -/
def textWith (pointZero : Bool) : Binary64 → String
  | .infinite => "inf"
  | .finite m e =>
      let ⟨digits, point⟩ := shortest m e
      let count := (digits.length : Int)
      String.ofList <|
        if -4 < point ∧ point ≤ 16 then
          if point ≤ 0 then '0' :: '.' :: List.replicate point.natAbs '0' ++ digits
          else if count ≤ point then
            digits ++ List.replicate (point - count).toNat '0' ++
              (if pointZero then ['.', '0'] else [])
          else digits.take point.toNat ++ '.' :: digits.drop point.toNat
        else
          let mark := 'e' :: exponentText (point - 1)
          match digits with
          | [] => mark
          | [d] => d :: mark
          | d :: more => d :: '.' :: more ++ mark

/-- The text of a float. -/
def text (x : Binary64) : String := textWith true x

end Binary64

end DocSuite.Decimal
