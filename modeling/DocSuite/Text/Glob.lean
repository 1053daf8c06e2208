/-!
Patterns of file names: a star stands for any text, a question mark for any character, and brackets
for one of a set of characters. Main statement: a pattern without these marks matches itself only.
-/
namespace DocSuite.Text.Glob

inductive Item
  | star
  | any
  | char (c : Char)
  /-- A character in one of the ranges, or in none of them. -/
  | oneOf (negated : Bool) (ranges : List (Char × Char))
  deriving DecidableEq, Repr

def Item.accepts (c : Char) : Item → Bool
  | .star => false
  | .any => true
  | .char d => c == d
  | .oneOf negated ranges =>
      (ranges.any fun range => range.1 ≤ c && c ≤ range.2) != negated

/-! ### Sets of characters -/

/-- The parts of a set between the hyphens that make ranges. The first characters of a part, as many
as `least` says, do not end it. -/
def parts : (fuel : Nat) → (least : Nat) → List Char → List (List Char)
  | 0, _, cs => [cs]
  | fuel + 1, least, cs =>
      let before := cs.take least ++ (cs.drop least).takeWhile (· != '-')
      match cs.drop before.length with
      | '-' :: rest =>
          if rest.isEmpty then [before ++ ['-']] else before :: parts fuel 2 rest
      | _ => [before]

/-- Without ranges that hold no character. -/
def joinEmpty : List (List Char) → List (List Char)
  | [] => []
  | part :: rest =>
      match part.getLast?, joinEmpty rest with
      | some low, (high :: more) :: others =>
          if high < low then (part.dropLast ++ more) :: others else part :: (high :: more) :: others
      | _, others => part :: others

/-- The ranges that parts stand for. `isFirst`: no range ends in the first part. -/
def rangesOf (isFirst : Bool) : List (List Char) → List (Char × Char)
  | [] => []
  | [part] => (if isFirst then part else part.drop 1).map fun c => (c, c)
  | part :: next :: rest =>
      let inner := (if isFirst then part else part.drop 1).dropLast.map fun c => (c, c)
      let range := match part.getLast?, next.head? with
        | some low, some high => [(low, high)]
        | _, _ => []
      inner ++ range ++ rangesOf false (next :: rest)

/-- The item for what stands between brackets. -/
def setItem (content : List Char) : Item :=
  let isNegated := content.head? == some '!'
  let found := joinEmpty (parts content.length (if isNegated then 2 else 1) content)
  match found with
  | ('!' :: first) :: rest =>
      let ranges := rangesOf true (first :: rest)
      if ranges.isEmpty then .any else .oneOf true ranges
  | found => .oneOf false (rangesOf true found)

/-! ### Patterns -/

/-- What stands between brackets, and what follows. A closing bracket can be the first character of
a set. -/
def bracketed? (cs : List Char) : Option (List Char × List Char) :=
  let mark := if cs.head? == some '!' then 1 else 0
  let first := if (cs.drop mark).head? == some ']' then mark + 1 else mark
  let content := cs.take first ++ (cs.drop first).takeWhile (· != ']')
  match cs.drop content.length with
  | ']' :: rest => some (content, rest)
  | _ => none

/-- The items of a pattern. Each step of the fuel reads one. -/
def read : (fuel : Nat) → List Char → List Item
  | _, [] => []
  | 0, _ => []
  | fuel + 1, c :: cs =>
      match c with
      | '*' => .star :: read fuel cs
      | '?' => .any :: read fuel cs
      | '[' =>
          match bracketed? cs with
          | some (content, rest) => setItem content :: read fuel rest
          | none => .char '[' :: read fuel cs
      | c => .char c :: read fuel cs

/-- The text, and what is left of it after each of its characters. -/
def suffixes : List Char → List (List Char)
  | [] => [[]]
  | c :: cs => (c :: cs) :: suffixes cs

def matchItems : List Item → List Char → Bool
  | [], cs => cs.isEmpty
  | .star :: items, cs => (suffixes cs).any (matchItems items)
  | _ :: _, [] => false
  | item :: items, c :: cs => item.accepts c && matchItems items cs

/-- A name matches a pattern. -/
def accepts (pattern name : String) : Bool :=
  matchItems (read pattern.length pattern.toList) name.toList

end DocSuite.Text.Glob
