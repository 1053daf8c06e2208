import DocSuite.CommandLine.Arguments

/-!
Commands: what the program can be asked to do. Main statement: arguments either give a command or
say why nothing is to be done.
-/
namespace DocSuite

inductive Command
  /-- Compiles the document in a file. -/
  | compile (path : String) (output name : Option String) (languages : List String)
      (isVerbose : Bool)
  /-- Lists the samples of the document in a file. -/
  | samples (path : String) (languages : List String)
  deriving DecidableEq, Repr

/-- Why nothing is to be done. -/
inductive Refusal
  | help (program : String)
  | version
  | usage (program : String) (fault : UsageFault)
  deriving DecidableEq, Repr

namespace Command

inductive Choice
  | help | version | output | name | language | verbose
  deriving DecidableEq, Repr

def programName : String := "mddoctest"

def versionText : String := s!"{programName} 0.1.0"

def helpSwitch : Switch Choice := ⟨.help, ["-h", "--help"], false, true⟩

def languageSwitch : Switch Choice := ⟨.language, ["--language"], true, false⟩

def commandNames : List String := ["compile", "samples"]

def mainForm : CommandForm Choice :=
  ⟨programName, [helpSwitch, ⟨.version, ["--version"], false, true⟩], "command", true⟩

def compileForm : CommandForm Choice :=
  ⟨s!"{programName} compile",
    [helpSwitch, ⟨.output, ["-o", "--output"], true, false⟩, ⟨.name, ["--name"], true, false⟩,
      languageSwitch, ⟨.verbose, ["-v", "--verbose"], false, false⟩], "path", false⟩

def samplesForm : CommandForm Choice :=
  ⟨s!"{programName} samples", [helpSwitch, languageSwitch], "path", false⟩

/-- The values that a choice is given. -/
def values (reading : Reading Choice) (choice : Choice) : List String :=
  reading.given.filterMap fun (key, value) => if key = choice then value else none

def refusalOf (form : CommandForm Choice) : Stop Choice → Refusal
  | .fault fault => .usage form.program fault
  | .last .version => .version
  | .last _ => .help form.program

def readWith (form : CommandForm Choice) (arguments : List String) :
    Except Refusal (List String × Reading Choice) :=
  match Reading.read form arguments with
  | .ok result => .ok result
  | .error stop => .error (refusalOf form stop)

/-- The command of a name, for what its own arguments say. -/
def ofReading (name path : String) (reading : Reading Choice) : Command :=
  let languages := values reading .language
  if name = "compile" then
    .compile path (values reading .output).getLast? (values reading .name).getLast? languages
      (reading.given.any fun (key, _) => key = .verbose)
  else .samples path languages

def formOf (name : String) : CommandForm Choice :=
  if name = "compile" then compileForm else samplesForm

/-- The command that arguments give. -/
def ofArguments (arguments : List String) : Except Refusal Command := do
  let (operand, outer) ← readWith mainForm arguments
  let name := operand.headD ""
  if !commandNames.contains name then
    throw (.usage programName (.unknownChoice mainForm.operand name commandNames))
  let (operand, inner) ← readWith (formOf name) operand.tail
  let unknown := outer.unknown ++ inner.unknown
  if !unknown.isEmpty then throw (.usage programName (.unknown unknown))
  return ofReading name (operand.headD "") inner

end Command

namespace Refusal

open Command

/-- How a program is called. -/
def usageText (program : String) : String :=
  if program = compileForm.program then
    "usage: mddoctest compile [-h] [-o OUTPUT] [--name NAME] [--language TAG] [-v]\n" ++
      "                         path\n"
  else if program = samplesForm.program then
    "usage: mddoctest samples [-h] [--language TAG] path\n"
  else "usage: mddoctest [-h] [--version] \x7bcompile,samples\x7d ...\n"

def helpText (program : String) : String :=
  usageText program ++
    if program = compileForm.program then
      "\npositional arguments:\n" ++
      "  path                  Markdown document\n" ++
      "\noptions:\n" ++
      "  -h, --help            show this help message and exit\n" ++
      "  -o OUTPUT, --output OUTPUT\n" ++
      "                        Output file (default: stdout)\n" ++
      "  --name NAME           Suite title (default: the file name)\n" ++
      "  --language TAG        Additional fence language tag to compile; repeatable\n" ++
      "  -v, --verbose         Log compilation phases\n"
    else if program = samplesForm.program then
      "\npositional arguments:\n" ++
      "  path            Markdown document\n" ++
      "\noptions:\n" ++
      "  -h, --help      show this help message and exit\n" ++
      "  --language TAG  Additional fence language tag to recognize; repeatable\n"
    else
      "\nCompile annotated Markdown code samples into pytest suites\n" ++
      "\npositional arguments:\n" ++
      "  \x7bcompile,samples\x7d\n" ++
      "    compile          Generate a test module\n" ++
      "    samples          List recognized samples\n" ++
      "\noptions:\n" ++
      "  -h, --help         show this help message and exit\n" ++
      "  --version          show program's version number and exit\n"

/-- The line that tells a fault in the use of a program. -/
def usageLine (program : String) (fault : UsageFault) : String :=
  s!"{program}: error: {fault.message}"

end Refusal

end DocSuite
