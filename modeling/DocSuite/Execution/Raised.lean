import DocSuite.Syntax.Printer
import DocSuite.Value

/-!
Exceptions that are raised while samples run: the class and the text, from the arguments with which
the exception was made. To tell the text may raise an exception in its turn. Main statement: an
exception with one argument has the text of the argument, whatever the class, unless the class is
one of keys, of operating system errors or of syntax errors.
-/
namespace DocSuite

/-- What a class of exceptions is a part of. -/
inductive Family
  /-- Errors with which iterators stop. -/
  | stop
  /-- All other errors. -/
  | error
  /-- Interrupts and exits, which are no errors. -/
  | passing
  deriving DecidableEq, Repr

structure Raised where
  className : String
  /-- What reports show of the text. -/
  message : String
  /-- What is raised when the text is asked for. -/
  failing : Option Raised := none
  family : Family := .error
  /-- The exception that led to it. -/
  origin : Option Raised := none
  deriving Repr

namespace Raised

/-- Handlers of errors take it. -/
def isError (raised : Raised) : Bool := raised.family != .passing

/-- Its class is that of the errors with which iterators stop, or lies below it. -/
def isStop (raised : Raised) : Bool := raised.family == .stop

/-- The text, or what is raised when it is asked for. -/
def text (raised : Raised) : Except Raised String :=
  match raised.failing with
  | none => .ok raised.message
  | some failing => .error failing

/-- An exception with a text that may fail. -/
def ofText (className : String) (text : Except Raised String) (family : Family := .error) :
    Raised :=
  match text with
  | .ok message => { className, message, family }
  | .error failing =>
      { className, message := "<exception str() failed>", failing := some failing, family }

@[simp] theorem family_ofText (className : String) (text : Except Raised String)
    (family : Family) : (ofText className text family).family = family := by
  cases text <;> rfl

@[simp] theorem text_ofText (className : String) (text : Except Raised String) (family : Family) :
    (ofText className text family).text = text := by
  cases text <;> rfl

/-- The class of the exception that led to it. -/
def cause (raised : Raised) : Option String := raised.origin.map className

/-- An integer is too long to be written. -/
def longInteger : Raised :=
  { className := "ValueError", message := Syntax.PrintFault.hugeInteger.message }

/-- The literal form of a value. -/
def literal (value : Value) : Except Raised String :=
  if value.hasLongInteger then .error longInteger else .ok value.repr

/-- A value as it is inserted into a text. -/
def inserted (value : Value) : Except Raised String :=
  if value.hasLongInteger then .error longInteger else .ok value.str

/-- Classes that handlers of errors do not take. -/
def passing : List String :=
  ["BaseException", "BaseExceptionGroup", "GeneratorExit", "KeyboardInterrupt", "SystemExit"]

/-- Two names of the class of operating system errors. -/
def systemAliases : List String := ["EnvironmentError", "IOError"]

/-- The class of operating system errors with a number. -/
def systemClass : Int → String
  | 1 => "PermissionError"
  | 2 => "FileNotFoundError"
  | 3 => "ProcessLookupError"
  | 4 => "InterruptedError"
  | 10 => "ChildProcessError"
  | 11 => "BlockingIOError"
  | 13 => "PermissionError"
  | 17 => "FileExistsError"
  | 20 => "NotADirectoryError"
  | 21 => "IsADirectoryError"
  | 32 => "BrokenPipeError"
  | 103 => "ConnectionAbortedError"
  | 104 => "ConnectionResetError"
  | 108 => "BrokenPipeError"
  | 110 => "TimeoutError"
  | 111 => "ConnectionRefusedError"
  | 114 => "BlockingIOError"
  | 115 => "BlockingIOError"
  | _ => "OSError"

def systemClasses : List String :=
  ["OSError", "BlockingIOError", "BrokenPipeError", "ChildProcessError", "ConnectionAbortedError",
    "ConnectionError", "ConnectionRefusedError", "ConnectionResetError", "FileExistsError",
    "FileNotFoundError", "InterruptedError", "IsADirectoryError", "NotADirectoryError",
    "PermissionError", "ProcessLookupError", "TimeoutError"]

def syntaxClasses : List String := ["SyntaxError", "IndentationError", "TabError"]

/-- The text of most exceptions. -/
def argumentsText : List Value → Except Raised String
  | [] => .ok ""
  | [value] => inserted value
  | values => do return "(" ++ ", ".intercalate (← values.mapM literal) ++ ")"

/-- The text of an operating system error: its number, what it means and the files it is about. -/
def systemText (args : List Value) : Except Raised String :=
  match args with
  | number :: reason :: more =>
      if more.length > 3 then argumentsText args
      else do
        let head := s!"[Errno {← inserted number}] {← inserted reason}"
        match more with
        | [] | .none :: _ => return head
        | [file] | [file, _] | [file, _, .none] => return s!"{head}: {← literal file}"
        | file :: _ :: other :: _ =>
            return s!"{head}: {← literal file} -> {← literal other}"
  | _ => argumentsText args

def textOf (className : String) (args : List Value) : Except Raised String :=
  if className = "KeyError" then
    match args with
    | [key] => literal key
    | _ => argumentsText args
  else if systemClasses.contains className then systemText args
  else if syntaxClasses.contains className && args.isEmpty then .ok Value.none.str
  else argumentsText args

/-- The class that an exception belongs to when it is made by a class with arguments. -/
def classOf (className : String) (args : List Value) : String :=
  let className := if systemAliases.contains className then "OSError" else className
  if className = "OSError" then
    match args with
    | [.int number, _] | [.int number, _, _] | [.int number, _, _, _] | [.int number, _, _, _, _] =>
        systemClass number
    | _ => className
  else className

/-- The class of the errors with which iterators stop. -/
def stopName : String := "StopIteration"

def familyOf (className : String) : Family :=
  if className = stopName then .stop
  else if passing.contains className then .passing
  else .error

/-- The exception that a class makes of some arguments. -/
def ofArguments (className : String) (args : List Value) : Raised :=
  let className := classOf className args
  ofText className (textOf className args) (familyOf className)

/-- The classes of exceptions that every sample can name. -/
def knownClasses : List String :=
  passing ++ systemAliases ++ systemClasses ++ syntaxClasses ++
    ["ArithmeticError", "AssertionError", "AttributeError", "BufferError", "BytesWarning",
      "DeprecationWarning", "EOFError", "EncodingWarning", "Exception", "ExceptionGroup",
      "FloatingPointError", "FutureWarning", "ImportError", "ImportWarning", "IndexError",
      "KeyError", "LookupError", "MemoryError", "ModuleNotFoundError", "NameError",
      "NotImplementedError", "OverflowError", "PendingDeprecationWarning", "RecursionError",
      "ReferenceError", "ResourceWarning", "RuntimeError", "RuntimeWarning",
      "StopAsyncIteration", "StopIteration", "SyntaxWarning", "SystemError", "TypeError",
      "UnboundLocalError", "UnicodeDecodeError", "UnicodeEncodeError", "UnicodeError",
      "UnicodeTranslateError", "UnicodeWarning", "UserWarning", "ValueError", "Warning",
      "ZeroDivisionError"]

/-- What is raised where a class is named that may not exist. -/
def ofClass (className : String) (args : List Value) : Raised :=
  if knownClasses.contains className then ofArguments className args
  else { className := "NameError", message := s!"name '{className}' is not defined" }

/-- An exception after it has left something of a kind that stops in its own way. An error with
which iterators stop does not leave it. -/
def leaving (kind : String) (raised : Raised) : Raised :=
  if raised.isStop then
    { className := "RuntimeError", message := s!"{kind} raised {stopName}", origin := some raised }
  else raised

def leavingCoroutine : Raised → Raised := leaving "coroutine"

def leavingGenerator : Raised → Raised := leaving "generator"

end Raised

end DocSuite
