/-!
Sets of characters, written as ranges of code points. Main statement: a set is read
from its hexadecimal text, so that a table of a standard stays readable.
-/
namespace DocSuite.Text

/-- Inclusive ranges of code points, in increasing order. -/
abbrev Ranges := List (Nat × Nat)

/-- The value of a hexadecimal digit. -/
def hexDigit? (c : Char) : Option Nat :=
  if '0' ≤ c ∧ c ≤ '9' then some (c.toNat - '0'.toNat)
  else if 'a' ≤ c ∧ c ≤ 'f' then some (c.toNat - 'a'.toNat + 10)
  else if 'A' ≤ c ∧ c ≤ 'F' then some (c.toNat - 'A'.toNat + 10)
  else none

/-- The number that hexadecimal digits write; other characters count as nothing. -/
def ofHex (cs : List Char) : Nat :=
  cs.foldl (fun n c => match hexDigit? c with | some d => 16 * n + d | none => n) 0

/-- Splits at every occurrence of a character. -/
def splitAt (sep : Char) : List Char → List (List Char)
  | [] => [[]]
  | c :: cs =>
      if c = sep then [] :: splitAt sep cs
      else match splitAt sep cs with
        | [] => [[c]]
        | w :: ws => (c :: w) :: ws

/-- The entries of a table, which stand between blanks and line breaks. -/
def tableEntries (text : String) : List (List Char) :=
  (splitAt ' ' (text.toList.map fun c => if c = '\n' then ' ' else c)).filter (!·.isEmpty)

namespace Ranges

/-- Membership; the search stops at the first range that starts above the code point. -/
def contains : Ranges → Nat → Bool
  | [], _ => false
  | (lo, hi) :: rest, code => lo ≤ code && (code ≤ hi || contains rest code)

/-- Reads `41-5A 61`: ranges and single code points. -/
def read (text : String) : Ranges :=
  (tableEntries text).filterMap fun entry =>
    match splitAt '-' entry with
    | [lo] => some (ofHex lo, ofHex lo)
    | lo :: hi :: _ => some (ofHex lo, ofHex hi)
    | [] => none

end Ranges

end DocSuite.Text
