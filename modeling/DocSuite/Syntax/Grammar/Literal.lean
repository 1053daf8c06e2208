import DocSuite.Syntax.Grammar.Basic
import DocSuite.Syntax.Interpolated
import DocSuite.Syntax.Token.Lexer
import DocSuite.Text.Compose

/-!
Names, numbers and strings in the grammar. The fields of an interpolated string are texts of
their own, read in parentheses by the same grammar.
-/
namespace DocSuite.Syntax.Grammar

open DocSuite.Text

/-- The identifier that a name spells: compatible characters are taken for the same. -/
def identifier (text : List Char) : String :=
  String.ofList (if text.all (·.toNat < 0x80) then text else compose text)

def nameText : P String := (fun token => identifier token.text) <$> nameToken

def nameExpr : P Expr := do
  let token ← nameToken
  return ⟨token.line, .name (identifier token.text)⟩

def constant (t : Terminal) (value : Literal) : P Expr := do
  let token ← accept t
  return ⟨token.line, .literal value⟩

def number : P Expr := do
  let token ← tokenThat Token.isNumber
  match numberLiteral token.text with
  | .ok value => pure ⟨token.line, .literal value⟩
  | .error fault => raiseAt token.line fault

/-- A value, or a fault that is reported where the reader is. -/
def orRaise {α : Type} : Except Fault α → P α
  | .ok a => pure a
  | .error fault => raiseLast fault

/-! ### Interpolated strings -/

/-- Puts a text behind the pieces, which are in reverse order. Adjacent texts are one. -/
def addText (codes : List Nat) (pieces : List Piece) : List Piece :=
  match codes, pieces with
  | [], pieces => pieces
  | codes, .text before :: pieces => .text (before ++ codes) :: pieces
  | codes, pieces => .text codes :: pieces

def countBreaks (cs : List Char) : Nat := cs.countP (· == '\n')

/-- The expression of a field that starts with the brace in front of `rest`. -/
def fieldExpr (g : Env → Except SyntaxFault Expr) (token : Token) (rest expr : List Char)
    (mark : Char) : P Expr :=
  if expr.all fun c => c == ' ' || c == '\t' || c == '\n' || c == '\x0c' then
    raiseLast (if mark = '}' then .emptyField else .emptyFieldBefore mark)
  else
    let line := token.line + (countBreaks token.text - countBreaks rest)
    let text := Source.normalize ('(' :: expr ++ [')'])
    let env := { tokens := (tokensOf line text).toArray, source := Source.ofText line text
                 inField := true : Env }
    match g env with
    | .ok value => pure value
    | .error fault => fun _ state => (.stop fault, state)

/-- Puts the pieces of a body behind others; `level` counts the formats around it. The rest of
the body is what ends a format. -/
def interpolation (g : Env → Except SyntaxFault Expr) (token : Token) (isRaw : Bool) :
    (fuel level : Nat) → List Piece → List Char → P (List Piece × List Char)
  | 0, _, pieces, cs => pure (pieces, cs)
  | fuel + 1, level, pieces, cs => do
      let run ← orRaise (plainRun isRaw (level == 0) cs.length cs)
      let text ← orRaise (textValue isRaw run.text)
      let pieces := addText text pieces
      if run.doubled then interpolation g token isRaw fuel level pieces run.rest
      else
        match run.rest with
        | '{' :: cs =>
            if 2 ≤ level then raiseLast .fieldTooDeep
            else
              let rest ← orRaise (fieldRest cs.length none [] cs)
              let expr := cs.take (cs.length - rest.length)
              match rest with
              | [] => raiseLast .fieldNotClosed
              | mark :: after =>
                  let value ← fieldExpr g token cs expr mark
                  let (shown, rest) :=
                    if mark = '=' then
                      let behind := after.dropWhile isSpace
                      (some (cs.take (cs.length - behind.length)), behind)
                    else (none, rest)
                  let (conversion, rest) ← match rest with
                    | '!' :: c :: rest =>
                        if c = 's' ∨ c = 'r' ∨ c = 'a' then pure (some c, rest)
                        else raiseLast .fieldConversion
                    | ['!'] => raiseLast .fieldNotClosed
                    | rest => pure (none, rest)
                  let (format, rest) ← match rest with
                    | ':' :: rest =>
                        if rest.isEmpty then raiseLast .fieldNotClosed
                        else do
                          let (format, rest) ← interpolation g token isRaw fuel (level + 1) [] rest
                          pure (some format.reverse, rest)
                    | rest => pure (none, rest)
                  match rest with
                  | '}' :: rest =>
                      let pieces := match shown with
                        | some text => addText (codes text) pieces
                        | none => pieces
                      let conversion :=
                        if shown.isSome ∧ format.isNone ∧ conversion.isNone then some 'r'
                        else conversion
                      interpolation g token isRaw fuel level
                        (.field value conversion format :: pieces) rest
                  | _ => raiseLast .fieldNotClosed
        | rest =>
            if level ≠ 0 ∧ rest.isEmpty then raiseLast .fieldNotClosed
            else pure (pieces, rest)
where
  isSpace (c : Char) : Bool := c == ' ' || (9 ≤ c.toNat && c.toNat ≤ 13)

/-! ### Adjacent strings -/

/-- What adjacent strings stand for so far. -/
structure Adjacent where
  bytes : Option (List Nat) := none
  pieces : List Piece := []
  isInterpolated : Bool := false

def addString (g : Env → Except SyntaxFault Expr) (first : Bool) (sofar : Adjacent)
    (token : Token) : P Adjacent := do
  let parts := StringParts.read token.text
  if parts.isBytes then
    if parts.body.any fun c => 0x80 ≤ c.toNat then raiseAt token.line .nonAsciiBytes
    else
      let value ← orRaise (bytesValue parts.isRaw parts.body)
      match sofar.bytes with
      | some bytes => pure { sofar with bytes := some (bytes ++ value) }
      | none => if first then pure { sofar with bytes := some value } else raiseLast .mixedBytes
  else if parts.isInterpolated then
    if sofar.bytes.isSome then raiseLast .mixedBytes
    else
      let (pieces, _) ←
        interpolation g token parts.isRaw (parts.body.length + 1) 0 sofar.pieces parts.body
      pure { sofar with pieces, isInterpolated := true }
  else
    let value ← orRaise (textValue parts.isRaw parts.body)
    if sofar.bytes.isSome then raiseLast .mixedBytes
    else pure { sofar with pieces := addText value sofar.pieces }

def addStrings (g : Env → Except SyntaxFault Expr) : Bool → Adjacent → List Token → P Adjacent
  | _, sofar, [] => pure sofar
  | first, sofar, token :: tokens => do
      addStrings g false (← addString g first sofar token) tokens

/-- Strings side by side are one literal. -/
def adjacentStrings (g : Env → Except SyntaxFault Expr) : P Expr := do
  let tokens ← many1 (tokenThat Token.isString)
  let first := tokens.headD endToken
  let whole ← addStrings g true {} tokens
  let marked := first.text.head? = some 'u'
  let form := match whole.bytes, whole.isInterpolated with
    | some bytes, _ => .literal (.bytes bytes)
    | none, true => .interpolated whole.pieces.reverse
    | none, false =>
        match whole.pieces with
        | .text codes :: _ => .literal (.text codes marked)
        | _ => .literal (.text [] marked)
  return ⟨first.line, form⟩

end DocSuite.Syntax.Grammar
