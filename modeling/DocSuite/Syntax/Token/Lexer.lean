import DocSuite.Syntax.Token
import DocSuite.Text.Identifier
import DocSuite.Text.Printable
import DocSuite.Text.Utf8

/-!
Reading tokens. Indentation is measured twice, with tabs to every eighth column and with tabs
of one column, so that an order which depends on the width of tabs is refused. The list of
tokens ends with `finish` or with the one failure.
-/
namespace DocSuite.Syntax

open DocSuite.Text

/-! ### Numbers -/

/-- Digits with single underscores between them; `needed`: a digit must come next. -/
def digitTail (kind : NumberKind) (ok : Char → Bool) :
    (needed : Bool) → List Char → Except Fault (List Char)
  | needed, [] => if needed then .error (.invalidNumber kind) else .ok []
  | needed, c :: cs =>
      if ok c then digitTail kind ok false cs
      else if needed then
        if isDigit c then .error (.invalidDigit c kind) else .error (.invalidNumber kind)
      else if c = '_' then digitTail kind ok true cs
      else .ok (c :: cs)

def isNameChar (c : Char) : Bool := isAsciiLetter c || isDigit c || c == '_' || 0x80 ≤ c.toNat

/-- What touches a number may be any name that starts with `if`, `in` or `is`, or another keyword
as a whole name. -/
def touchesNumber (rest : List Char) : Bool :=
  [['i', 'f'], ['i', 'n'], ['i', 's']].any (fun start => start.isPrefixOf rest) ||
    [['a', 'n', 'd'], ['e', 'l', 's', 'e'], ['f', 'o', 'r'], ['n', 'o', 't'], ['o', 'r']].any
      fun keyword =>
        keyword.isPrefixOf rest && !(rest.drop keyword.length).head?.any isNameChar

/-- No ASCII character of a name may touch a number, except at the start of a keyword that can
follow one. -/
def numberEnd (kind : NumberKind) (rest : List Char) : Except Fault (List Char) :=
  let touched := rest.head?.any fun c => isNameChar c && c.toNat < 0x80
  if touched && !touchesNumber rest then .error (.invalidNumber kind) else .ok rest

def imaginaryEnd (rest : List Char) : Except Fault (List Char) :=
  match rest with
  | 'j' :: rest | 'J' :: rest => numberEnd .imaginary rest
  | _ => numberEnd .decimal rest

def exponentEnd (rest : List Char) : Except Fault (List Char) :=
  let digits (rest : List Char) := digitTail .decimal isDigit true rest >>= imaginaryEnd
  match rest with
  | e :: more =>
      if e = 'e' ∨ e = 'E' then
        match more with
        | '+' :: more | '-' :: more => digits more
        | c :: _ => if isDigit c then digits more else numberEnd .decimal rest
        | [] => numberEnd .decimal rest
      else imaginaryEnd rest
  | [] => .ok []

/-- What follows the point of a number. -/
def fractionEnd (rest : List Char) : Except Fault (List Char) :=
  match rest with
  | c :: _ =>
      if isDigit c then digitTail .decimal isDigit true rest >>= exponentEnd else exponentEnd rest
  | [] => .ok []

def radixEnd (kind : NumberKind) (ok : Char → Bool) (rest : List Char) :
    Except Fault (List Char) := do
  let rest := match rest with
    | '_' :: rest => rest
    | _ => rest
  let rest ← digitTail kind ok true rest
  match rest with
  | c :: _ => if isDigit c then .error (.invalidDigit c kind) else numberEnd kind rest
  | [] => .ok []

/-- The zeros, with underscores, that follow a leading zero. -/
def zeroTail : List Char → Except Fault (List Char)
  | '0' :: cs => zeroTail cs
  | '_' :: '0' :: cs => zeroTail cs
  | '_' :: c :: cs => if isDigit c then .ok (c :: cs) else .error (.invalidNumber .decimal)
  | ['_'] => .error (.invalidNumber .decimal)
  | cs => .ok cs

/-- What follows a number that starts with a digit. -/
def numberRest (first : Char) (rest : List Char) : Except Fault (List Char) :=
  if first = '0' then
    match rest with
    | 'x' :: rest | 'X' :: rest => radixEnd .hexadecimal (fun c => (hexDigit? c).isSome) rest
    | 'o' :: rest | 'O' :: rest => radixEnd .octal (fun c => '0' ≤ c && c ≤ '7') rest
    | 'b' :: rest | 'B' :: rest => radixEnd .binary (fun c => c = '0' || c = '1') rest
    | _ => do
        let zeros ← zeroTail rest
        let nonzero := match zeros with
          | c :: _ => isDigit c
          | [] => false
        let rest ← if nonzero then digitTail .decimal isDigit true zeros else pure zeros
        match rest with
        | '.' :: rest => fractionEnd rest
        | 'e' :: _ | 'E' :: _ => exponentEnd rest
        | 'j' :: _ | 'J' :: _ => imaginaryEnd rest
        | _ => if nonzero then .error .leadingZeros else numberEnd .decimal rest
  else do
    match ← digitTail .decimal isDigit false rest with
    | '.' :: rest => fractionEnd rest
    | rest => exponentEnd rest

/-! ### Strings -/

/-- What follows the closing quotes; `seen` counts the quotes just read. The second component is
`false` if the text ends first, or the line for a string that must stay on one. -/
def stringRest (quote : Char) (triple : Bool) : (seen : Nat) → List Char → List Char × Bool
  | _, [] => ([], false)
  | seen, c :: cs =>
      if c = '\n' ∧ !triple then (cs, false)
      else if c = quote then
        if !triple || seen = 2 then (cs, true) else stringRest quote triple (seen + 1) cs
      else if c = '\\' then
        match cs with
        | [] => ([], false)
        | _ :: cs => stringRest quote triple 0 cs
      else stringRest quote triple 0 cs

/-- Letters in front of a quote, with their case ignored. -/
def stringPrefixes : List (List Char) :=
  [[], ['b'], ['r'], ['u'], ['f'], ['b', 'r'], ['r', 'b'], ['f', 'r'], ['r', 'f']]

def asciiLower (c : Char) : Char := if 'A' ≤ c ∧ c ≤ 'Z' then Char.ofNat (c.toNat + 32) else c

/-- The quote and what follows it, at the start of a string. -/
def stringStart? (cs : List Char) : Option (Char × List Char) :=
  stringPrefixes.findSome? fun letters =>
    if (cs.take letters.length).map asciiLower = letters then
      match cs.drop letters.length with
      | '\'' :: rest => some ('\'', rest)
      | '"' :: rest => some ('"', rest)
      | _ => none
    else none

/-! ### Brackets -/

def closingBracket (c : Char) : Char :=
  if c = '(' then ')' else if c = '[' then ']' else '}'

/-! ### The reader -/

structure Lexer where
  rest : List Char
  line : Nat
  /-- Bytes of the line that were read. -/
  column : Nat := 0
  /-- The last character read ended the line. -/
  broken : Bool := true
  shownFrom : Nat
  atStart : Bool := true
  /-- The line holds no code. -/
  blank : Bool := false
  /-- Indentations, the innermost first, in both measures; the outermost is not listed. -/
  indents : List (Nat × Nat) := []
  pendingIndent : Bool := false
  pendingDedents : Nat := 0
  /-- Open brackets with their lines, the innermost first. -/
  brackets : List (Char × Nat) := []

namespace Lexer

/-- At a text whose first line has a number. -/
def start (first : Nat) (text : List Char) : Lexer :=
  { rest := text, line := first - 1, shownFrom := first - 1 }

/-- Goes to the next line if the last one is read. Between tokens, earlier lines go out of
view. -/
def load (between : Bool) (lexer : Lexer) : Lexer :=
  if lexer.broken && !lexer.rest.isEmpty then
    { lexer with
      line := lexer.line + 1, column := 0, broken := false
      shownFrom := if between then lexer.line + 1 else lexer.shownFrom }
  else lexer

/-- Reads up to a rest of the text. -/
def readTo (between : Bool) (rest : List Char) (lexer : Lexer) : Lexer :=
  let read := lexer.rest.take (lexer.rest.length - rest.length)
  let lexer := read.foldl (fun (lexer : Lexer) c =>
    let lexer := lexer.load between
    { lexer with
      rest := lexer.rest.drop 1, column := lexer.column + Utf8.width c, broken := c == '\n' })
    lexer
  { lexer with rest }

def here (lexer : Lexer) : Position := ⟨lexer.line, lexer.column⟩

def token (start : Lexer) (kind : TokenKind) (text : List Char) (stop : Lexer) : Token :=
  { kind, text, span := ⟨start.here, stop.here⟩, depth := stop.brackets.length
    shownFrom := stop.shownFrom }

def failure (lexer : Lexer) (direct : Bool) (line : Nat) (fault : Fault) : Option Token × Lexer :=
  (some (lexer.token (.failure ⟨fault, line, direct, lexer.brackets.head?⟩) [] lexer), lexer)

/-- The text ends too early. -/
def endFailure (lexer : Lexer) : Option Token × Lexer :=
  match lexer.brackets with
  | (bracket, line) :: _ => lexer.failure false line (.neverClosed bracket)
  | [] => lexer.failure false lexer.line .unexpectedEnd

/-- The measure of an indentation: two columns, and the column in front of the first backslash
that continues the line. -/
structure Measure where
  column : Nat := 0
  narrow : Nat := 0
  continued : Nat := 0

inductive Indentation
  | measured (measure : Measure) (rest : List Char)
  | badContinuation (rest : List Char)
  | ended

def readIndentation (m : Measure) : List Char → Indentation
  | ' ' :: cs => readIndentation { m with column := m.column + 1, narrow := m.narrow + 1 } cs
  | '\t' :: cs =>
      readIndentation { m with column := (m.column / 8 + 1) * 8, narrow := m.narrow + 1 } cs
  | '\x0c' :: cs => readIndentation { m with column := 0, narrow := 0 } cs
  | '\\' :: '\n' :: cs =>
      if cs.isEmpty then .ended
      else
        readIndentation { m with continued := if m.continued = 0 then m.column else m.continued } cs
  | '\\' :: cs => .badContinuation cs
  | cs => .measured m cs

/-- Indents, dedents or stays. -/
def indentTo (column narrow : Nat) (lexer : Lexer) : Option Token × Lexer :=
  let (top, topNarrow) := lexer.indents.headD (0, 0)
  if column = top then
    if narrow = topNarrow then (none, lexer) else lexer.failure false lexer.line .mixedTabs
  else if top < column then
    if 99 ≤ lexer.indents.length then lexer.failure false lexer.line .tooDeepIndent
    else if narrow ≤ topNarrow then lexer.failure false lexer.line .mixedTabs
    else (none, { lexer with indents := (column, narrow) :: lexer.indents, pendingIndent := true })
  else
    let indents := lexer.indents.dropWhile fun (outer, _) => column < outer
    let (top, topNarrow) := indents.headD (0, 0)
    if column ≠ top then lexer.failure false lexer.line .unmatchedIndent
    else if narrow ≠ topNarrow then lexer.failure false lexer.line .mixedTabs
    else
      (none, { lexer with
        indents, pendingDedents := lexer.indents.length - indents.length })

/-- Reads the blanks at the start of a line. -/
def openLine (lexer : Lexer) : Option Token × Lexer :=
  let lexer := { lexer.load true with atStart := false, blank := false }
  match readIndentation {} lexer.rest with
  | .ended => endFailure (lexer.readTo true [])
  | .badContinuation rest =>
      let lexer := lexer.readTo true rest
      lexer.failure false lexer.line .afterContinuation
  | .measured m rest =>
      let lexer := (lexer.readTo true rest).load true
      match rest with
      | '#' :: _ | '\n' :: _ => (none, { lexer with blank := true })
      | _ =>
          if !lexer.brackets.isEmpty then (none, lexer)
          else if m.continued = 0 then lexer.indentTo m.column m.narrow
          else lexer.indentTo m.continued m.continued

def isTokenBlank (c : Char) : Bool := c == ' ' || c == '\t' || c == '\x0c'

def readName (lexer : Lexer) : Option Token × Lexer :=
  let text := lexer.rest.takeWhile isNameChar
  let stop := lexer.readTo false (lexer.rest.drop text.length)
  match identifierFault? text with
  | none =>
      let kind := match Terminal.keyword? text with
        | some keyword => .terminal keyword
        | none => .name
      (some (lexer.token kind text stop), stop)
  | some (_, c) =>
      lexer.failure true lexer.line
        (if isPrintable c.toNat then .invalidCharacter c else .nonPrintable c)

def readNumber (lexer : Lexer) (rest : Except Fault (List Char)) : Option Token × Lexer :=
  match rest with
  | .error fault => lexer.failure true lexer.line fault
  | .ok rest =>
      let text := lexer.rest.take (lexer.rest.length - rest.length)
      let stop := lexer.readTo false rest
      (some (lexer.token .number text stop), stop)

def readString (lexer : Lexer) (quote : Char) (body : List Char) : Option Token × Lexer :=
  let (triple, rest, closed) := match body with
    | c :: d :: more =>
        if c = quote ∧ d = quote then
          let (rest, closed) := stringRest quote true 0 more
          (true, rest, closed)
        else
          let (rest, closed) := stringRest quote false 0 body
          (false, rest, closed)
    | _ =>
        let (rest, closed) := stringRest quote false 0 body
        (false, rest, closed)
  let stop := lexer.readTo false rest
  if closed then
    let text := lexer.rest.take (lexer.rest.length - rest.length)
    (some (lexer.token .string text stop), stop)
  else lexer.failure true lexer.line (.unterminated triple stop.line)

def readOperator (lexer : Lexer) (c : Char) (cs : List Char) : Option Token × Lexer :=
  let operator (brackets : List (Char × Nat)) :=
    let (kind, length) := match Terminal.operator? (c :: cs) with
      | some t => (TokenKind.terminal t, t.spelling.length)
      | none => (.other, if c = '<' ∧ cs.head? = some '>' then 2 else 1)
    let stop := { lexer.readTo false (lexer.rest.drop length) with brackets }
    (some (lexer.token kind (lexer.rest.take length) stop), stop)
  if c = '(' ∨ c = '[' ∨ c = '{' then
    if 200 ≤ lexer.brackets.length then lexer.failure true lexer.line .tooManyBrackets
    else operator ((c, lexer.line) :: lexer.brackets)
  else if c = ')' ∨ c = ']' ∨ c = '}' then
    match lexer.brackets with
    | [] => lexer.failure true lexer.line (.unmatched c)
    | (bracket, line) :: brackets =>
        if closingBracket bracket = c then operator brackets
        else
          let line := if line = lexer.line then none else some line
          lexer.failure true lexer.line (.mismatched c bracket line)
  else if isPrintable c.toNat then operator lexer.brackets
  else lexer.failure true lexer.line (.nonPrintable c)

/-- Reads a token, or something that gives none: a comment, a continued line, the blanks at the
start of a line. -/
def step (lexer : Lexer) : Option Token × Lexer :=
  if lexer.atStart then lexer.openLine
  else if lexer.pendingIndent then
    (some (lexer.token .indent [] lexer), { lexer with pendingIndent := false })
  else if lexer.pendingDedents ≠ 0 then
    (some (lexer.token .dedent [] lexer), { lexer with pendingDedents := lexer.pendingDedents - 1 })
  else
    let lexer := lexer.readTo true (lexer.rest.dropWhile isTokenBlank)
    match lexer.rest with
    | [] =>
        if lexer.brackets.isEmpty then (some (lexer.token .finish [] lexer), lexer)
        else lexer.endFailure
    | '#' :: cs => (none, lexer.readTo true (cs.dropWhile (· != '\n')))
    | '\n' :: cs =>
        let stop := { lexer.readTo true cs with atStart := true }
        if lexer.blank || !lexer.brackets.isEmpty then (none, stop)
        else (some (lexer.token .newline [] lexer), stop)
    | '\\' :: '\n' :: cs =>
        if cs.isEmpty then (lexer.readTo false []).endFailure
        else (none, (lexer.readTo false cs).load false)
    | '\\' :: _ => lexer.failure false lexer.line .afterContinuation
    | c :: cs =>
        match stringStart? (c :: cs) with
        | some (quote, body) => lexer.readString quote body
        | none =>
            if isNameChar c && !isDigit c then lexer.readName
            else if isDigit c then lexer.readNumber (numberRest c cs)
            else
              match c, cs with
              | '.', d :: _ =>
                  if isDigit d then lexer.readNumber (fractionEnd cs) else lexer.readOperator c cs
              | _, _ => lexer.readOperator c cs

/-- All tokens, within a number of steps. -/
def tokens : Nat → Lexer → List Token
  | 0, _ => []
  | steps + 1, lexer =>
      match lexer.step with
      | (none, lexer) => tokens steps lexer
      | (some token, lexer) =>
          match token.kind with
          | .finish | .failure _ => [token]
          | _ => token :: tokens steps lexer

end Lexer

/-- The tokens of a text whose first line has a number. Each step reads a character or uses up
an indentation that one brought. -/
def tokensOf (first : Nat) (text : List Char) : List Token :=
  (Lexer.start first text).tokens (4 * text.length + 10)

end DocSuite.Syntax
