import DocSuite.Text.Blank
import DocSuite.Text.Identifier
import DocSuite.Toml.Basic

/-!
Reading TOML documents, statement by statement. What is left of the text is the only state of the
parts that read values; statements change the table of the document and its marks. Main statement:
a document without statements is an empty table.
-/
namespace DocSuite.Toml

open DocSuite.Text

def fail {α : Type} (reason : Reason) (cs : List Char) : Except Fault α :=
  .error (.malformed reason cs.length)

def isSpace (c : Char) : Bool := c == ' ' || c == '\t'

def isSpaceOrBreak (c : Char) : Bool := isSpace c || c == '\n'

def skipSpaces (cs : List Char) : List Char := cs.dropWhile isSpace

/-- Characters that no text and no comment holds. -/
def isControl (c : Char) : Bool := (c < ' ' && c != '\t') || c == '\x7f'

def isLongControl (c : Char) : Bool := isControl c && c != '\n'

/-- The text up to a mark; without a mark, the rest. -/
def upTo (mark : List Char) : List Char → List Char × Option (List Char)
  | [] => ([], none)
  | c :: cs =>
      if mark.isPrefixOf (c :: cs) then ([], some ((c :: cs).drop mark.length))
      else
        let (before, behind) := upTo mark cs
        (c :: before, behind)

/-- Refuses characters in a text, at the first of them. -/
def checked (isRefused : Char → Bool) (cs behind : List Char) : Except Fault Unit :=
  match cs.dropWhile fun c => !isRefused c with
  | [] => .ok ()
  | c :: rest => .error (.malformed (.invalid c) (rest.length + 1 + behind.length))

/-- What follows a comment, if there is one. -/
def skipComment (cs : List Char) : Except Fault (List Char) :=
  match cs with
  | '#' :: rest => do
      let text := rest.takeWhile (· != '\n')
      let behind := rest.dropWhile (· != '\n')
      checked isControl text behind
      return behind
  | _ => .ok cs

/-- What follows spaces, line breaks and comments. -/
def skipGaps : (fuel : Nat) → List Char → Except Fault (List Char)
  | 0, cs => .ok cs
  | fuel + 1, cs => do
      let rest ← skipComment (cs.dropWhile isSpaceOrBreak)
      if rest.length = cs.length then return cs else skipGaps fuel rest

/-! ### Texts -/

/-- A character written as a number of hexadecimal digits. -/
def readScalar (size : Nat) (cs : List Char) : Except Fault (List Char × List Char) :=
  let digits := cs.take size
  if digits.length ≠ size ∨ !digits.all fun c => (hexDigit? c).isSome then fail .hexadecimal cs
  else
    let rest := cs.drop size
    let code := ofHex digits
    if code.isValidChar then .ok ([Char.ofNat code], rest) else fail .scalar rest

/-- What an escape stands for, from behind the backslash. In a text over lines, the end of a line
can be escaped, with the blanks around it. -/
def readEscape (isLong : Bool) (cs : List Char) : Except Fault (List Char × List Char) :=
  match cs with
  | [] => fail .escape []
  | c :: rest =>
      if isLong && isSpaceOrBreak c then
        if c = '\n' then .ok ([], rest.dropWhile isSpaceOrBreak)
        else
          match skipSpaces rest with
          | [] => .ok ([], [])
          | '\n' :: rest => .ok ([], rest.dropWhile isSpaceOrBreak)
          | rest => fail .escape rest
      else
        match c with
        | 'b' => .ok (['\x08'], rest)
        | 't' => .ok (['\t'], rest)
        | 'n' => .ok (['\n'], rest)
        | 'f' => .ok (['\x0c'], rest)
        | 'r' => .ok (['\r'], rest)
        | '"' => .ok (['"'], rest)
        | '\\' => .ok (['\\'], rest)
        | 'u' => readScalar 4 rest
        | 'U' => readScalar 8 rest
        | _ => fail .escape rest

/-- The rest of a text in double quotes. Each step of the fuel reads a character. -/
def readQuoted (isLong : Bool) : (fuel : Nat) → (text : List Char) → List Char →
    Except Fault (List Char × List Char)
  | _, _, [] => fail .openText []
  | 0, _, cs => fail .openText cs
  | fuel + 1, text, '"' :: cs =>
      if !isLong then .ok (text.reverse, cs)
      else
        match cs with
        | '"' :: '"' :: rest => .ok (text.reverse, rest)
        | _ => readQuoted isLong fuel ('"' :: text) cs
  | fuel + 1, text, '\\' :: cs => do
      let (image, rest) ← readEscape isLong cs
      readQuoted isLong fuel (image.reverse ++ text) rest
  | fuel + 1, text, c :: cs =>
      if (if isLong then isLongControl c else isControl c) then fail (.illegal c) (c :: cs)
      else readQuoted isLong fuel (c :: text) cs

/-- The rest of a text in single quotes, up to a mark. -/
def readLiteral (mark : List Char) (isRefused : Char → Bool) (cs : List Char) :
    Except Fault (List Char × List Char) :=
  match upTo mark cs with
  | (_, none) => fail (.expected (String.ofList mark)) []
  | (text, some rest) => do
      checked isRefused text (mark ++ rest)
      return (text, rest)

/-- Quotes right behind a text over lines belong to it, up to two of them. -/
def withQuotes (quote : Char) (text cs : List Char) : List Char × List Char :=
  let extra := (cs.take 2).takeWhile (· == quote)
  (text ++ extra, cs.drop extra.length)

/-- The rest of a text over lines. A line break right at its start does not belong to it. -/
def readLong (quote : Char) (cs : List Char) : Except Fault (List Char × List Char) := do
  let cs := match cs with
    | '\n' :: rest => rest
    | _ => cs
  let (text, rest) ← if quote = '"' then readQuoted true (cs.length + 1) [] cs
    else readLiteral ['\'', '\'', '\''] isLongControl cs
  return withQuotes quote text rest

/-- The text at the start of a value. -/
def readText? (cs : List Char) : Option (Except Fault (List Char × List Char)) :=
  match cs with
  | '"' :: '"' :: '"' :: rest => some (readLong '"' rest)
  | '"' :: rest => some (readQuoted false (rest.length + 1) [] rest)
  | '\'' :: '\'' :: '\'' :: rest => some (readLong '\'' rest)
  | '\'' :: rest => some (readLiteral ['\''] isControl rest)
  | _ => none

/-! ### Keys -/

def isBareKey (c : Char) : Bool := isAsciiLetter c || isDigit c || c == '-' || c == '_'

def readKeyPart (cs : List Char) : Except Fault (String × List Char) :=
  match cs with
  | '"' :: rest => do
      let (text, rest) ← readQuoted false (rest.length + 1) [] rest
      return (String.ofList text, rest)
  | '\'' :: rest => do
      let (text, rest) ← readLiteral ['\''] isControl rest
      return (String.ofList text, rest)
  | c :: _ =>
      if isBareKey c then .ok (String.ofList (cs.takeWhile isBareKey), cs.dropWhile isBareKey)
      else fail .keyStart cs
  | [] => fail .keyStart []

/-- A key: parts with dots between them. Each step of the fuel reads a part. -/
def readKey : (fuel : Nat) → List Char → Except Fault (Key × List Char)
  | 0, cs => fail .keyStart cs
  | fuel + 1, cs => do
      let (part, rest) ← readKeyPart cs
      match skipSpaces rest with
      | '.' :: rest => do
          let (key, rest) ← readKey fuel (skipSpaces rest)
          return (part :: key, rest)
      | rest => return ([part], rest)

/-! ### Numbers and dates -/

/-- Digits with single underscores between them. -/
def digitRun (isDigit : Char → Bool) : List Char → List Char × List Char
  | '_' :: c :: cs =>
      if isDigit c then
        let (run, rest) := digitRun isDigit cs
        ('_' :: c :: run, rest)
      else ([], '_' :: c :: cs)
  | c :: cs =>
      if isDigit c then
        let (run, rest) := digitRun isDigit cs
        (c :: run, rest)
      else ([], c :: cs)
  | [] => ([], [])

/-- A run of digits that starts with one. -/
def digits? (isDigit : Char → Bool) (cs : List Char) : Option (List Char × List Char) :=
  match cs with
  | c :: _ => if isDigit c then some (digitRun isDigit cs) else none
  | [] => none

def numberOf (base : Nat) (digits : List Char) : Nat :=
  digits.foldl (fun n c => match hexDigit? c with | some d => base * n + d | none => n) 0

/-- An integer in a base other than ten. -/
def basedInteger? (cs : List Char) : Option (Nat × List Char) :=
  let isBinary (c : Char) : Bool := c == '0' || c == '1'
  let isOctal (c : Char) : Bool := '0' ≤ c && c ≤ '7'
  match cs with
  | '0' :: 'x' :: rest =>
      (digits? (fun c => (hexDigit? c).isSome) rest).map fun (run, rest) => (numberOf 16 run, rest)
  | '0' :: 'b' :: rest => (digits? isBinary rest).map fun (run, rest) => (numberOf 2 run, rest)
  | '0' :: 'o' :: rest => (digits? isOctal rest).map fun (run, rest) => (numberOf 8 run, rest)
  | _ => none

/-- The sign of a number, and what follows it. -/
def splitSign : List Char → List Char × List Char
  | '+' :: cs => (['+'], cs)
  | '-' :: cs => (['-'], cs)
  | cs => ([], cs)

/-- The fraction of a number, with its point. -/
def fraction (cs : List Char) : List Char × List Char :=
  match cs with
  | '.' :: rest =>
      match digits? isDigit rest with
      | some (run, rest) => ('.' :: run, rest)
      | none => ([], cs)
  | _ => ([], cs)

/-- The exponent of a number, with its mark. -/
def exponent (cs : List Char) : List Char × List Char :=
  match cs with
  | e :: rest =>
      if e = 'e' ∨ e = 'E' then
        let (sign, rest) := splitSign rest
        match digits? isDigit rest with
        | some (run, rest) => (e :: sign ++ run, rest)
        | none => ([], cs)
      else ([], cs)
  | [] => ([], cs)

/-- Integers have no more decimal digits. -/
def longestInteger : Nat := 4300

/-- The number at the start of a text. -/
def readNumber? (cs : List Char) : Option (Except Fault (Value × List Char)) :=
  match basedInteger? cs with
  | some (n, rest) => some (.ok (.integer n, rest))
  | none =>
      let (sign, unsigned) := splitSign cs
      let whole := match unsigned with
        | '0' :: rest => some (['0'], rest)
        | _ => digits? isDigit unsigned
      whole.map fun (run, rest) =>
        let (fraction, rest) := fraction rest
        let (exponent, rest) := exponent rest
        if fraction.isEmpty && exponent.isEmpty then
          let count := (run.filter isDigit).length
          if longestInteger < count then .error (.longInteger count)
          else
            let n : Int := numberOf 10 run
            .ok (.integer (if sign = ['-'] then -n else n), rest)
        else .ok (.float (sign ++ run ++ fraction ++ exponent), rest)

/-- A number of a fixed count of digits between two bounds. -/
def fixedDigits? (size low high : Nat) (cs : List Char) : Option (Nat × List Char) :=
  let digits := cs.take size
  let n := numberOf 10 digits
  if digits.length = size && digits.all isDigit && low ≤ n && n ≤ high then some (n, cs.drop size)
  else none

def mark? (c : Char) : List Char → Option (List Char)
  | d :: cs => if d = c then some cs else none
  | [] => none

/-- What follows a time of day. -/
def timeRest? (cs : List Char) : Option (List Char) := do
  let (_, cs) ← fixedDigits? 2 0 23 cs
  let (_, cs) ← fixedDigits? 2 0 59 (← mark? ':' cs)
  let (_, cs) ← fixedDigits? 2 0 59 (← mark? ':' cs)
  match cs with
  | '.' :: c :: rest => return if isDigit c then rest.dropWhile isDigit else cs
  | _ => return cs

/-- What follows the distance of a time zone. -/
def zoneRest (cs : List Char) : List Char :=
  let zone := match cs with
    | c :: rest =>
        if c = 'Z' ∨ c = 'z' then some rest
        else if c = '+' ∨ c = '-' then do
          let (_, rest) ← fixedDigits? 2 0 23 rest
          let (_, rest) ← fixedDigits? 2 0 59 (← mark? ':' rest)
          some rest
        else none
    | [] => none
  zone.getD cs

def isLeapYear (year : Nat) : Bool := year % 4 == 0 && (year % 100 != 0 || year % 400 == 0)

def monthLength (year month : Nat) : Nat :=
  if month = 2 then if isLeapYear year then 29 else 28
  else if month = 4 ∨ month = 6 ∨ month = 9 ∨ month = 11 then 30 else 31

/-- The date, with or without a time, at the start of a text. -/
def readDate? (cs : List Char) : Option (Except Fault (Value × List Char)) := do
  let (year, rest) ← fixedDigits? 4 0 9999 cs
  let (month, rest) ← fixedDigits? 2 1 12 (← mark? '-' rest)
  let (day, rest) ← fixedDigits? 2 1 31 (← mark? '-' rest)
  let behindTime := match rest with
    | c :: time => if c = 'T' ∨ c = 't' ∨ c = ' ' then (timeRest? time).map zoneRest else none
    | [] => none
  let stop := behindTime.getD rest
  let text := cs.take (cs.length - stop.length)
  if year = 0 ∨ monthLength year month < day then some (fail .date cs)
  else some (.ok (if behindTime.isSome then .dateTime text else .date text, stop))

/-- The time of day at the start of a text. -/
def readTime? (cs : List Char) : Option (Except Fault (Value × List Char)) :=
  (timeRest? cs).map fun rest => .ok (.time (cs.take (cs.length - rest.length)), rest)

/-- A number that is none, or is not finite. -/
def readSpecial? (cs : List Char) : Option (Except Fault (Value × List Char)) :=
  let (sign, rest) := splitSign cs
  let name := rest.take 3
  if name = "inf".toList ∨ name = "nan".toList then some (.ok (.float (sign ++ name), rest.drop 3))
  else none

/-- The word for a truth value at the start of a text. -/
def readBoolean? (cs : List Char) : Option (Except Fault (Value × List Char)) :=
  if "true".toList.isPrefixOf cs then some (.ok (.boolean true, cs.drop 4))
  else if "false".toList.isPrefixOf cs then some (.ok (.boolean false, cs.drop 5))
  else none

/-! ### Values -/

/-- How values inside others are read. -/
abbrev Reader := List Char → Except Fault (Value × List Char)

/-- The items of an array. Each step of the fuel reads one. -/
def readItems (reader : Reader) : (fuel : Nat) → List Value → List Char →
    Except Fault (Value × List Char)
  | 0, _, cs => fail .openArray cs
  | fuel + 1, items, cs => do
      let (value, rest) ← reader cs
      let items := value :: items
      let rest ← skipGaps rest.length rest
      match rest with
      | ']' :: rest => return (.array items.reverse, rest)
      | ',' :: rest => do
          let rest ← skipGaps rest.length rest
          match rest with
          | ']' :: rest => return (.array items.reverse, rest)
          | rest => readItems reader fuel items rest
      | rest => fail .openArray rest

/-- A key with its value. -/
def readPair (reader : Reader) (cs : List Char) : Except Fault ((Key × Value) × List Char) := do
  let (key, rest) ← readKey cs.length.succ cs
  match rest with
  | '=' :: rest => do
      let (value, rest) ← reader (skipSpaces rest)
      return ((key, value), rest)
  | rest => fail .equals rest

def Value.isCollection : Value → Bool
  | .array _ | .table _ => true
  | _ => false

/-- The entries of a table in one piece. Each step of the fuel reads one. -/
def readEntries (reader : Reader) : (fuel : Nat) → Table → Marks → List Char →
    Except Fault (Value × List Char)
  | 0, _, _, cs => fail .openTable cs
  | fuel + 1, table, marks, cs => do
      let ((key, value), rest) ← readPair reader cs
      let name := key.getLast?.getD ""
      if marks.isFrozen key then fail (.immutable key) rest
      else
        match table.update? false some key.dropLast with
        | none => fail .overwritten rest
        | some _ =>
            match table.update? false (Table.insert? name value) key.dropLast with
            | none => fail (.duplicate name) rest
            | some table =>
                match skipSpaces rest with
                | '}' :: rest => return (.table table, rest)
                | ',' :: rest =>
                    let marks := if value.isCollection then marks.freeze key else marks
                    readEntries reader fuel table marks (skipSpaces rest)
                | rest => fail .openTable rest

/-- A value. Each step of the fuel goes into an array or a table. -/
def readValue : (fuel : Nat) → List Char → Except Fault (Value × List Char)
  | 0, cs => fail .value cs
  | fuel + 1, cs =>
      match readText? cs with
      | some read => do
          let (text, rest) ← read
          return (.text (String.ofList text), rest)
      | none =>
          match cs with
          | '[' :: rest => do
              let rest ← skipGaps rest.length rest
              match rest with
              | ']' :: rest => return (.array [], rest)
              | rest => readItems (readValue fuel) (rest.length + 1) [] rest
          | '{' :: rest =>
              match skipSpaces rest with
              | '}' :: rest => .ok (.table [], rest)
              | rest => readEntries (readValue fuel) (rest.length + 1) [] {} rest
          | _ =>
              match (((((readBoolean? cs).or (readDate? cs)).or (readTime? cs)).or
                (readNumber? cs)).or (readSpecial? cs)) with
              | some read => read
              | none => fail .value cs

/-! ### Documents -/

/-- A document that is being read. -/
structure State where
  table : Table := []
  marks : Marks := {}
  /-- Keys that count as declared from the next header on. -/
  pending : List Key := []
  header : Key := []

namespace State

def settle (state : State) : State :=
  { state with marks := state.pending.foldl Marks.declare state.marks, pending := [] }

/-- The header of a table, from behind its bracket. -/
def declareTable (state : State) (cs : List Char) : Except Fault (State × List Char) := do
  let (key, rest) ← readKey cs.length.succ (skipSpaces cs)
  if state.marks.isDeclared key || state.marks.isFrozen key then fail (.redeclared key) rest
  else
    let marks := state.marks.declare key
    match state.table.update? true some key with
    | none => fail .overwritten rest
    | some table =>
        match rest with
        | ']' :: rest => return ({ state with table, marks, header := key }, rest)
        | rest => fail .tableEnd rest

/-- The header of a table in a list, from behind its brackets. -/
def declareItem (state : State) (cs : List Char) : Except Fault (State × List Char) := do
  let (key, rest) ← readKey cs.length.succ (skipSpaces cs)
  if state.marks.isFrozen key then fail (.immutable key) rest
  else
    let marks := (state.marks.clear key).declare key
    match state.table.update? true (Table.appendTable? (key.getLast?.getD "")) key.dropLast with
    | none => fail .overwritten rest
    | some table =>
        match rest with
        | ']' :: ']' :: rest => return ({ state with table, marks, header := key }, rest)
        | rest => fail .listEnd rest

/-- The first key that is declared. -/
def declared? (marks : Marks) (keys : List Key) : Option Key := keys.find? marks.isDeclared

/-- Sets a key below the last header. -/
def setPair (state : State) (cs : List Char) : Except Fault (State × List Char) := do
  let ((key, value), rest) ← readPair (readValue cs.length.succ) cs
  let parents := ((List.range key.length).drop 1).map fun n => state.header ++ key.take n
  match declared? state.marks parents with
  | some parent => fail (.redefined parent) rest
  | none =>
      let parent := state.header ++ key.dropLast
      if state.marks.isFrozen parent then fail (.immutable parent) rest
      else
        match state.table.update? true (Table.insert? (key.getLast?.getD "") value) parent with
        | none => fail .overwritten rest
        | some table =>
            let marks := if value.isCollection then state.marks.freeze (state.header ++ key)
              else state.marks
            return ({ state with table, marks, pending := state.pending ++ parents }, rest)

/-- Reads a statement, unless the line holds none. -/
def readStatement (state : State) (cs : List Char) : Except Fault (State × List Char) :=
  match cs with
  | '[' :: '[' :: rest => state.settle.declareItem rest
  | '[' :: rest => state.settle.declareTable rest
  | '#' :: _ => .ok (state, cs)
  | c :: _ =>
      if isBareKey c || c == '"' || c == '\'' then state.setPair cs else fail .statement cs
  | [] => .ok (state, [])

/-- Reads lines. Each step of the fuel reads one. -/
def readLines : (fuel : Nat) → State → List Char → Except Fault State
  | 0, state, _ => .ok state
  | fuel + 1, state, cs =>
      match skipSpaces cs with
      | [] => .ok state
      | '\n' :: rest => readLines fuel state rest
      | cs => do
          let (state, rest) ← state.readStatement cs
          match (← skipComment (skipSpaces rest)) with
          | [] => return state
          | '\n' :: rest => readLines fuel state rest
          | rest => fail .lineEnd rest

end State

/-- The table of a document. -/
def read (text : List Char) : Except Fault Table := do
  let text := joinBreaks text
  let state ← State.readLines text.length.succ {} text
  return state.table

end DocSuite.Toml
