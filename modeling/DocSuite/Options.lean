import DocSuite.Order
import DocSuite.Record
import DocSuite.Report
import DocSuite.Text.Blank

/-!
Options of a compilation. They are given as values of any kind; settings are options that have
been checked. Main statement: options become settings exactly if no problem is found.
-/
namespace DocSuite

open DocSuite.Text

/-- Options as they are given. -/
structure Options where
  name : Value := .none
  /-- The path of the document. -/
  filename : Value := .none
  /-- The path that the suite is written to. -/
  output : Value := .none
  /-- The language tags of the blocks that are samples: a set. -/
  languages : List Value
  verbose : Value := .bool false
  deriving Repr

/-- Options that can be used. -/
structure Settings where
  name : Option String
  filename : Option String
  output : Option String
  languages : List String
  verbose : Bool
  deriving DecidableEq, Repr

/-- Why options cannot be used. -/
inductive OptionsFault
  | record (fault : RecordFault)
  /-- A value that holds no others is given for the languages. -/
  | noCollection (value : Value)
  /-- A value that no set can hold is given as a language. -/
  | noElement (value : Value)
  | refused (report : Report)
  deriving Repr

def OptionsFault.message : OptionsFault → String
  | record fault => fault.message
  | noCollection value => s!"{quoted value.kindName} object is not iterable"
  | noElement value => s!"unhashable type: {quoted value.kindName}"
  | refused report => report.text

namespace Options

def defaultLanguages : List String := ["python+test", "py+test"]

/-- The title of a suite without a name and a document. -/
def defaultTitle : String := "Suite"

/-- The values in a collection. The values in a text are its characters. -/
def elements : Value → Except OptionsFault (List Value)
  | .list items | .set items => .ok items
  | .text s => .ok (s.toList.map fun c => .text (String.singleton c))
  | .dict entries => .ok (entries.map fun entry => .text entry.1)
  | value => .error (.noCollection value)

def isElement : Value → Bool
  | .list _ | .dict _ => false
  | _ => true

/-- The set of some values. -/
def setOf (values : List Value) : Except OptionsFault (List Value) :=
  match values.find? fun value => !isElement value with
  | some value => .error (.noElement value)
  | none => .ok (sortByText Value.str (Value.distinct values))

/-! ### Problems -/

def languageProblem? (tag : Value) : Option String :=
  match tag with
  | .text s =>
      let cs := s.toList
      let line := if cs.getLast? = some '\n' then cs.dropLast else cs
      if line.isEmpty || line.any isBlank then
        some s!"Language tag cannot be empty or contain spaces: {tag.repr}"
      else none
  | _ => some s!"Language tag must be a string, got {tag.repr}"

/-- What is wrong with some language tags. -/
def languageProblems (tags : List Value) : List String :=
  if tags.isEmpty then ["At least one sample language must be recognized"]
  else (sortByText Value.str tags).filterMap languageProblem?

def nameProblems : Value → List String
  | .none | .text _ => []
  | _ => ["Suite name must be a string"]

def pathProblems (label : String) : Value → List String
  | .none => []
  | .text s => if s.toList.all isBlank then [s!"{label} cannot be whitespace only"] else []
  | _ => [s!"{label} must be a string"]

def problems (options : Options) : List String :=
  nameProblems options.name ++ pathProblems "Filename" options.filename ++
    pathProblems "Output path" options.output ++ languageProblems options.languages

/-! ### Settings -/

def refusal (options : Options) : Report :=
  Report.configuration ("Invalid compile options: " ++ "; ".intercalate options.problems)
    { context := [("filename", options.filename), ("name", options.name)]
      suggestions := ["Check the values passed to compile_document()"] }

def text? : Value → Option String
  | .text s => some s
  | _ => none

/-- The settings that options without problems stand for. -/
def settings (options : Options) : Settings :=
  { name := text? options.name, filename := text? options.filename
    output := text? options.output, languages := options.languages.filterMap text?
    verbose := !options.verbose.isEmpty }

def validate (options : Options) : Except Report Settings :=
  if options.problems.isEmpty then .ok options.settings else .error options.refusal

/-- The title of the suite: the first of the name, the path of the document and a default that says
something. -/
def title (options : Options) : Value :=
  if !options.name.isEmpty then options.name
  else if !options.filename.isEmpty then options.filename
  else .text defaultTitle

/-! ### Reading options -/

def recordType : RecordType :=
  ⟨"CompileOptions", [⟨"name", some .none⟩, ⟨"filename", some .none⟩, ⟨"output", some .none⟩,
    ⟨"languages", some (.set (defaultLanguages.map .text))⟩, ⟨"verbose", some (.bool false)⟩]⟩

def valueOf (record : List (String × Value)) (name : String) : Value :=
  (record.lookup name).getD .none

/-- The options with the values that are given. -/
def ofEntries (given : List (String × Value)) : Except OptionsFault Options := do
  match recordType.make given with
  | .error fault => throw (.record fault)
  | .ok record =>
      let languages ← elements (valueOf record "languages") >>= setOf
      return {
        name := valueOf record "name", filename := valueOf record "filename"
        output := valueOf record "output", languages, verbose := valueOf record "verbose" }

/-- The options as a record. -/
def toEntries (options : Options) : List (String × Value) :=
  [("name", options.name), ("filename", options.filename), ("output", options.output),
    ("languages", .set options.languages), ("verbose", options.verbose)]

def without (name : String) (given : List (String × Value)) : List (String × Value) :=
  given.filter fun entry => entry.1 != name

/-- The options for a document in a file: those that are given, with more languages, and with the
path of the file where no other is given. -/
def ofFile (path : String) (moreLanguages : Value) (given : List (String × Value)) :
    Except OptionsFault Options := do
  let base ← match given.lookup "languages" with
    | some languages => elements languages
    | none => pure (defaultLanguages.map .text)
  let base ← setOf base
  let more ← elements moreLanguages >>= setOf
  let filename := (given.lookup "filename").getD (.text path)
  ofEntries (("filename", filename) :: ("languages", .set (base ++ more)) ::
    without "filename" (without "languages" given))

/-- Options that can be used, or what keeps them from being used. -/
def checked (options : Options) : Except OptionsFault (Options × Settings) :=
  match options.validate with
  | .ok settings => .ok (options, settings)
  | .error report => .error (.refused report)

end Options

namespace Settings

def title (settings : Settings) : String :=
  match settings.name.filter (!·.isEmpty), settings.filename.filter (!·.isEmpty) with
  | some name, _ => name
  | none, some filename => filename
  | none, none => Options.defaultTitle

end Settings

end DocSuite
