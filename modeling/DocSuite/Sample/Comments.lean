import DocSuite.Syntax.Basic
import DocSuite.Text.Identifier

/-!
The comments of a text. Strings, brackets and continued lines are followed, all other code is
passed over character by character, so that a text need not be well-formed to be read. Lines end
at line feeds. Main statement: a comment starts with a hash that stands outside of strings.
-/
namespace DocSuite

open DocSuite.Syntax DocSuite.Text

/-- Why the comments of a text cannot be read. -/
inductive CommentFault
  | openString (start : Position)
  | openStatement (line : Nat)
  | unmatchedIndent (line : Nat) (text : String)
  deriving DecidableEq, Repr

namespace CommentFault

def reason : CommentFault → String
  | openString _ => "EOF in multi-line string"
  | openStatement _ => "EOF in multi-line statement"
  | unmatchedIndent _ _ => "unindent does not match any outer indentation level"

/-- The reason with the place. -/
def message (fault : CommentFault) : String :=
  match fault with
  | openString start => s!"('{fault.reason}', ({start.line}, {start.column}))"
  | openStatement line => s!"('{fault.reason}', ({line}, 0))"
  | unmatchedIndent line _ => s!"{fault.reason} (<tokenize>, line {line})"

end CommentFault

/-- Splits behind every line feed; there is no line behind the last one. -/
def linesWithEnds : List Char → List (List Char)
  | [] => []
  | c :: cs =>
      if c = '\n' then [c] :: linesWithEnds cs
      else match linesWithEnds cs with
        | [] => [[c]]
        | line :: lines => (c :: line) :: lines

namespace CommentReader

/-- A string that goes on in the next line. -/
structure OpenString where
  start : Position
  quote : Char
  triple : Bool

structure State where
  /-- Open brackets less closed ones. -/
  depth : Int := 0
  /-- The line before ended with a backslash. -/
  continued : Bool := false
  string : Option OpenString := none
  /-- An unfinished string is dropped at the end of a line without a backslash. -/
  dropped : Bool := false
  /-- Indentations, the innermost first, without the outermost. -/
  indents : List Nat := []
  /-- Comments in reverse order. -/
  comments : List Comment := []

/-- What follows the closing quotes in the line. A backslash hides the character behind it, but
no line feed. -/
def closing? (quote : Char) (triple : Bool) (fuel : Nat) (cs : List Char) :
    Option (List Char) :=
  match fuel, cs with
  | 0, _ => none
  | _, [] => none
  | fuel + 1, c :: cs =>
      if c = '\\' then
        match cs with
        | d :: cs => if d = '\n' then none else closing? quote triple fuel cs
        | [] => none
      else if c = quote then
        if !triple then some cs
        else
          match cs with
          | d :: e :: rest => if d = quote ∧ e = quote then some rest
              else closing? quote triple fuel cs
          | _ => closing? quote triple fuel cs
      else closing? quote triple fuel cs

/-- How a string of one quote goes on from behind the quote. -/
inductive Single
  | closed (rest : List Char)
  | continued
  | unclosed

def single (quote : Char) (fuel : Nat) (cs : List Char) : Single :=
  match fuel, cs with
  | 0, _ => .unclosed
  | _, [] => .unclosed
  | _, ['\\', '\n'] => .continued
  | _, ['\\', '\r', '\n'] => .continued
  | fuel + 1, c :: cs =>
      if c = '\n' then .unclosed
      else if c = quote then .closed cs
      else if c = '\\' then
        match cs with
        | [] => .unclosed
        | _ :: cs => single quote fuel cs
      else single quote fuel cs

def isWordChar (c : Char) : Bool :=
  if c.toNat < 0x80 then isAsciiLetter c || isDigit c || c == '_' else isIdentifierContinue c

/-- Digits with single underscores between them, and what follows. -/
def digitsRest (ok : Char → Bool) : List Char → List Char
  | '_' :: c :: cs => if ok c then digitsRest ok cs else '_' :: c :: cs
  | c :: cs => if ok c then digitsRest ok cs else c :: cs
  | [] => []

def exponentRest (cs : List Char) : List Char :=
  match cs with
  | e :: sign :: d :: rest =>
      if e = 'e' ∨ e = 'E' then
        if (sign = '+' ∨ sign = '-') ∧ isDigit d then digitsRest isDigit rest
        else if isDigit sign then digitsRest isDigit (d :: rest)
        else cs
      else cs
  | [e, d] => if (e = 'e' ∨ e = 'E') ∧ isDigit d then [] else cs
  | _ => cs

def imaginaryRest (cs : List Char) : List Char :=
  match cs with
  | 'j' :: rest | 'J' :: rest => rest
  | _ => cs

def radixRest? (ok : Char → Bool) (cs : List Char) : Option (List Char) :=
  match cs with
  | '_' :: c :: rest => if ok c then some (digitsRest ok rest) else none
  | c :: rest => if ok c then some (digitsRest ok rest) else none
  | [] => none

/-- What follows a decimal number of which the first digit was read. -/
def decimalRest (zero : Bool) (cs : List Char) : List Char :=
  let whole := digitsRest isDigit cs
  match whole with
  | '.' :: rest =>
      let fraction := match rest with
        | d :: more => if isDigit d then digitsRest isDigit more else rest
        | [] => rest
      imaginaryRest (exponentRest fraction)
  | 'j' :: rest | 'J' :: rest => rest
  | _ =>
      let behind := exponentRest whole
      if behind.length < whole.length then imaginaryRest behind
      else if zero then digitsRest (· == '0') cs
      else whole

/-- What follows a number, which may be followed by letters at once. -/
def numberRest? : List Char → Option (List Char)
  | '.' :: d :: rest =>
      if isDigit d then some (imaginaryRest (exponentRest (digitsRest isDigit rest))) else none
  | '0' :: x :: rest =>
      let isHex (c : Char) : Bool := (hexDigit? c).isSome
      let radix :=
        if x = 'x' ∨ x = 'X' then radixRest? isHex rest
        else if x = 'b' ∨ x = 'B' then radixRest? (fun c => c == '0' || c == '1') rest
        else if x = 'o' ∨ x = 'O' then radixRest? (fun c => '0' ≤ c && c ≤ '7') rest
        else none
      some (radix.getD (decimalRest true (x :: rest)))
  | c :: rest => if isDigit c then some (decimalRest (c == '0') rest) else none
  | [] => none

/-- The letters in front of a quote, with their case ignored. -/
def isStringPrefix (letters : List Char) : Bool :=
  [[], ['b'], ['r'], ['u'], ['f'], ['b', 'r'], ['r', 'b'], ['f', 'r'], ['r', 'f']].contains
    (letters.map fun c => if 'A' ≤ c ∧ c ≤ 'Z' then Char.ofNat (c.toNat + 32) else c)

/-- A part of a line of code, with what follows it in the line. -/
inductive Lexeme
  | comment (text rest : List Char)
  | bracket (change : Int) (rest : List Char)
  /-- The string goes on in the next line. -/
  | openString (quote : Char) (triple : Bool)
  /-- The code goes on in the next line. -/
  | continued
  | other (rest : List Char)

/-- The string behind an opening quote. If it does not end, the quote alone is passed over. -/
def stringLexeme (quote : Char) (body : List Char) : Lexeme :=
  let short : Lexeme := match single quote body.length body with
    | .closed rest => .other rest
    | .continued => .openString quote false
    | .unclosed => .other body
  match body with
  | d :: e :: inner =>
      if d = quote ∧ e = quote then
        match closing? quote true inner.length inner with
        | some rest => .other rest
        | none => .openString quote true
      else short
  | _ => short

def lexeme (c : Char) (cs : List Char) : Lexeme :=
  if c = '#' then
    let text := cs.takeWhile fun d => d != '\r' && d != '\n'
    .comment text (cs.drop text.length)
  else if c = '\'' ∨ c = '"' then stringLexeme c cs
  else if c = '\\' ∧ (cs = ['\n'] ∨ cs = ['\r', '\n']) then .continued
  else if c = '(' ∨ c = '[' ∨ c = '{' then .bracket 1 cs
  else if c = ')' ∨ c = ']' ∨ c = '}' then .bracket (-1) cs
  else
    match numberRest? (c :: cs) with
    | some rest => .other rest
    | none =>
        if isWordChar c then
          let word := c :: cs.takeWhile isWordChar
          match cs.dropWhile isWordChar with
          | quote :: body =>
              if (quote = '\'' ∨ quote = '"') ∧ isStringPrefix word then stringLexeme quote body
              else .other (quote :: body)
          | [] => .other []
        else .other cs

/-- Reads the rest of a line in which no string is open. The line has the length `width`, and each
step of the fuel reads a character. -/
def readCode (line width : Nat) : (fuel : Nat) → State → List Char → State
  | 0, state, _ => state
  | _, state, [] => state
  | fuel + 1, state, c :: cs =>
      let start : Position := ⟨line, width - (cs.length + 1)⟩
      match lexeme c cs with
      | .comment text rest =>
          let comment := ⟨String.ofList text, start.line, start.column⟩
          readCode line width fuel { state with comments := comment :: state.comments } rest
      | .bracket change rest =>
          readCode line width fuel { state with depth := state.depth + change } rest
      | .openString quote triple =>
          { state with
            string := some ⟨start, quote, triple⟩, dropped := state.dropped || !triple }
      | .continued => { state with continued := true }
      | .other rest => readCode line width fuel state rest

/-- The column that the blanks of a line lead to, and what follows them. -/
def measure (column : Nat) : List Char → Nat × List Char
  | ' ' :: cs => measure (column + 1) cs
  | '\t' :: cs => measure ((column / 8 + 1) * 8) cs
  | '\x0c' :: cs => measure 0 cs
  | cs => (column, cs)

/-- A line at which no statement is open. -/
def readStart (line : Nat) (state : State) (text : List Char) : Except CommentFault State :=
  let (column, rest) := measure 0 text
  let width := text.length
  match rest with
  | [] => .ok state
  | '#' :: cs =>
      let body := (cs.reverse.dropWhile fun c => c == '\r' || c == '\n').reverse
      let comment := ⟨String.ofList body, line, width - rest.length⟩
      .ok { state with comments := comment :: state.comments }
  | c :: _ =>
      if c = '\r' ∨ c = '\n' then .ok state
      else
        let top := state.indents.headD 0
        if top < column then
          .ok (readCode line width width { state with indents := column :: state.indents } rest)
        else
          let indents := state.indents.dropWhile (column < ·)
          if indents.headD 0 = column then
            .ok (readCode line width width { state with indents } rest)
          else .error (.unmatchedIndent line (String.ofList text))

def endsWith (ending text : List Char) : Bool := ending.reverse.isPrefixOf text.reverse

/-- A line in which a string goes on. -/
def readString (line : Nat) (state : State) (string : OpenString) (text : List Char) : State :=
  match closing? string.quote string.triple text.length text with
  | some rest =>
      readCode line text.length text.length { state with string := none, dropped := false } rest
  | none =>
      if state.dropped && !endsWith ['\\', '\n'] text && !endsWith ['\\', '\r', '\n'] text then
        { state with string := none }
      else state

def readLines : (line : Nat) → State → List (List Char) → Except CommentFault State
  | line, state, [] =>
      match state.string with
      | some string => .error (.openString string.start)
      | none =>
          if state.depth = 0 ∧ !state.continued then .ok state else .error (.openStatement line)
  | line, state, text :: lines =>
      match state.string with
      | some string => readLines (line + 1) (readString line state string text) lines
      | none =>
          if state.depth = 0 ∧ !state.continued then do
            readLines (line + 1) (← readStart line state text) lines
          else
            let state := { state with continued := false }
            readLines (line + 1) (readCode line text.length text.length state text) lines

end CommentReader

/-- The comments of a text, in their order. -/
def readComments (source : List Char) : Except CommentFault (List Comment) := do
  let state ← CommentReader.readLines 1 {} (linesWithEnds source)
  return state.comments.reverse

end DocSuite
