import DocSuite.Text.Digit
import DocSuite.Text.Quoted

/-!
Arguments of a command: options, which go by their names, and one operand. The separator ends the
options. Main statement: each argument is read as part of an option, as the operand or as unknown.
-/
namespace DocSuite

open DocSuite.Text

/-- An option. A long name, which starts with two dashes, may be cut short where no other name
begins like it; a short name may be followed directly by the value or by more short names. -/
structure Switch (κ : Type) where
  key : κ
  names : List String
  takesValue : Bool := false
  /-- Nothing behind the option counts. -/
  isLast : Bool := false

/-- What a command reads. -/
structure CommandForm (κ : Type) where
  program : String
  switches : List (Switch κ)
  operand : String
  /-- The operand takes all the arguments behind it. -/
  takesRest : Bool := false

/-- Why arguments cannot be read. -/
inductive UsageFault
  /-- The start of more than one name. -/
  | ambiguous (argument : String) (names : List String)
  | noValue (names : List String)
  | unwantedValue (names : List String) (value : String)
  | missing (operand : String)
  | unknownChoice (operand choice : String) (choices : List String)
  | unknown (arguments : List String)
  deriving DecidableEq, Repr

namespace UsageFault

def about (argument text : String) : String := s!"argument {argument}: {text}"

def message : UsageFault → String
  | ambiguous argument names =>
      let matching := ", ".intercalate names
      s!"ambiguous option: {argument} could match {matching}"
  | noValue names => about ("/".intercalate names) "expected one argument"
  | unwantedValue names value =>
      about ("/".intercalate names) s!"ignored explicit argument {quoted value}"
  | missing operand => s!"the following arguments are required: {operand}"
  | unknownChoice operand choice choices =>
      let known := ", ".intercalate (choices.map quoted)
      about operand s!"invalid choice: {quoted choice} (choose from {known})"
  | unknown arguments => "unrecognized arguments: " ++ " ".intercalate arguments

end UsageFault

/-- An argument that names an option. -/
structure Mention (κ : Type) where
  switch : Switch κ
  isShort : Bool
  /-- The value in the argument, and whether an equals sign stands before it. -/
  joined : Option (Bool × List Char) := none

inductive Argument (κ : Type)
  | operand
  | separator
  | mention (mention : Mention κ)
  /-- An option of no known name. -/
  | unknown

namespace CommandForm

variable {κ : Type}

def separator : String := "--"

/-- The option of a name. -/
def named? (form : CommandForm κ) (name : List Char) : Option (Switch κ) :=
  form.switches.find? fun switch => switch.names.any fun known => known.toList == name

/-- The names that begin with a text, with their options. -/
def beginning (form : CommandForm κ) (start : List Char) : List (String × Switch κ) :=
  form.switches.flatMap fun switch =>
    (switch.names.filter fun name => start.isPrefixOf name.toList).map (·, switch)

/-- The number that a text writes may be negative; then it is no option. -/
def isNegativeNumber (text : List Char) : Bool :=
  let text := if text.getLast? = some '\n' then text.dropLast else text
  match text with
  | '-' :: digits =>
      match digits.dropWhile isDecimalDigit with
      | [] => !digits.isEmpty
      | '.' :: places => !places.isEmpty && places.all isDecimalDigit
      | _ => false
  | _ => false

/-- An argument that is no name of an option. -/
def unnamed (text : List Char) : Argument κ :=
  if isNegativeNumber text || text.contains ' ' then .operand else .unknown

/-- Reads a long name, which may be cut short, with a value behind an equals sign. -/
def classifyLong (form : CommandForm κ) (text : List Char) : Except UsageFault (Argument κ) :=
  let name := text.takeWhile (· != '=')
  let joined := match text.dropWhile (· != '=') with
    | _ :: value => some (true, value)
    | [] => none
  match form.named? name with
  | some switch => .ok (.mention ⟨switch, false, joined⟩)
  | none =>
      match form.beginning name with
      | [] => .ok (unnamed text)
      | [(_, switch)] => .ok (.mention ⟨switch, false, joined⟩)
      | several => .error (.ambiguous (String.ofList text) (several.map Prod.fst))

/-- Reads a short name with what is joined to it. -/
def classifyShort (form : CommandForm κ) (letter : Char) (behind : List Char) : Argument κ :=
  match form.named? ['-', letter] with
  | some switch =>
      .mention ⟨switch, true, match behind with
        | [] => none
        | '=' :: value => some (true, value)
        | value => some (false, value)⟩
  | none => unnamed ('-' :: letter :: behind)

def classify (form : CommandForm κ) (text : List Char) : Except UsageFault (Argument κ) :=
  match text with
  | '-' :: '-' :: _ => form.classifyLong text
  | '-' :: letter :: behind => .ok (form.classifyShort letter behind)
  | _ => .ok .operand

def classifyAll (form : CommandForm κ) :
    List String → Except UsageFault (List (String × Argument κ))
  | [] => .ok []
  | text :: texts =>
      if text = separator then .ok ((text, .separator) :: texts.map (·, .operand))
      else do
        let argument ← form.classify text.toList
        return (text, argument) :: (← classifyAll form texts)

/-- What the argument that names an option asks for. -/
structure Asked (κ : Type) where
  uses : List (Switch κ × Option String)
  /-- What is joined to short names and is none. -/
  unknown : List String := []
  /-- The value is the next argument. -/
  takesNext : Bool := false

namespace Asked

def after (use : Switch κ × Option String) (asked : Asked κ) : Asked κ :=
  { asked with uses := use :: asked.uses }

/-- An option with nothing joined to it, before the next operand. -/
def plain (next? : Option String) (switch : Switch κ) : Except UsageFault (Asked κ) :=
  if switch.takesValue then
    match next? with
    | some value => .ok { uses := [(switch, some value)], takesNext := true }
    | none => .error (.noValue switch.names)
  else .ok { uses := [(switch, none)] }

/-- An option with a value that it does not take. -/
def unwanted (switch : Switch κ) (value : List Char) : Except UsageFault (Asked κ) :=
  .error (.unwantedValue switch.names (String.ofList value))

/-- A short option with something joined to it: the value, or more short options. -/
def joined (form : CommandForm κ) (next? : Option String) (switch : Switch κ) (hasEquals : Bool) :
    List Char → Except UsageFault (Asked κ)
  | [] =>
      if switch.takesValue then .ok { uses := [(switch, some "")] } else unwanted switch []
  | letter :: behind =>
      if switch.takesValue then
        .ok { uses := [(switch, some (String.ofList (letter :: behind)))] }
      else if hasEquals || letter == '-' then unwanted switch (letter :: behind)
      else
        match form.named? ['-', letter] with
        | none =>
            .ok { uses := [(switch, none)], unknown := [String.ofList ('-' :: letter :: behind)] }
        | some other =>
            after (switch, none) <$>
              match behind with
              | [] => plain next? other
              | '=' :: value => joined form next? other true value
              | c :: cs => joined form next? other false (c :: cs)

def ofMention (form : CommandForm κ) (next? : Option String) (mention : Mention κ) :
    Except UsageFault (Asked κ) :=
  match mention.joined with
  | none => plain next? mention.switch
  | some (hasEquals, value) =>
      if mention.isShort then joined form next? mention.switch hasEquals value
      else if mention.switch.takesValue then
        .ok { uses := [(mention.switch, some (String.ofList value))] }
      else unwanted mention.switch value

end Asked

end CommandForm

/-- What arguments say. -/
structure Reading (κ : Type) where
  /-- The options, with their values. -/
  given : List (κ × Option String) := []
  /-- The operand, with the arguments behind it if it takes them. -/
  operand? : Option (List String) := none
  unknown : List String := []

/-- Why no more arguments are read. -/
inductive Stop (κ : Type)
  | fault (fault : UsageFault)
  /-- An option behind which nothing counts. -/
  | last (key : κ)

namespace Reading

variable {κ : Type}

/-- Adds options, up to one behind which nothing counts. -/
def use (reading : Reading κ) : List (Switch κ × Option String) → Except (Stop κ) (Reading κ)
  | [] => .ok reading
  | (switch, value) :: uses =>
      if switch.isLast then .error (.last switch.key)
      else use { reading with given := reading.given ++ [(switch.key, value)] } uses

def skip (reading : Reading κ) (texts : List String) : Reading κ :=
  { reading with unknown := reading.unknown ++ texts }

def ask (reading : Reading κ) (asked : CommandForm.Asked κ) : Except (Stop κ) (Reading κ) :=
  (reading.skip asked.unknown).use asked.uses

/-- The next argument, if it can be the value of an option. -/
def next? : List (String × Argument κ) → Option String
  | (text, .operand) :: _ => some text
  | _ => none

def ofArguments (form : CommandForm κ) (reading : Reading κ) :
    List (String × Argument κ) → Except (Stop κ) (Reading κ)
  | [] => .ok reading
  | (_, .mention mention) :: rest =>
      match CommandForm.Asked.ofMention form (next? rest) mention with
      | .error fault => .error (.fault fault)
      | .ok asked => do
          let reading ← reading.ask asked
          if asked.takesNext then
            match rest with
            | _ :: rest => ofArguments form reading rest
            | [] => .ok reading
          else ofArguments form reading rest
  | (text, .unknown) :: rest => ofArguments form (reading.skip [text]) rest
  | (text, kind) :: rest =>
      if reading.operand?.isSome then ofArguments form (reading.skip [text]) rest
      else if form.takesRest then
        .ok { reading with operand? := some (text :: rest.map Prod.fst) }
      else
        match kind, rest with
        | .separator, [] => .ok (reading.skip [text])
        | .separator, rest => ofArguments form reading rest
        | _, (_, .separator) :: rest =>
            ofArguments form { reading with operand? := some [text] } rest
        | _, rest => ofArguments form { reading with operand? := some [text] } rest

/-- Reads the arguments of a command. -/
def read (form : CommandForm κ) (texts : List String) :
    Except (Stop κ) (List String × Reading κ) :=
  match form.classifyAll texts with
  | .error fault => .error (.fault fault)
  | .ok arguments => do
      let reading ← ofArguments form {} arguments
      match reading.operand? with
      | some operand => return (operand, reading)
      | none => throw (.fault (.missing form.operand))

end Reading

end DocSuite
