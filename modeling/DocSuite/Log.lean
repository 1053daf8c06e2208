import DocSuite.Value

/-!
Logs: what is recorded while something runs. Main statement: whatever runs inside a context is
recorded between the start of the context and its end.
-/
namespace DocSuite

inductive Level
  | debug | info | error
  deriving DecidableEq, Repr

namespace Level

def number : Level → Nat
  | debug => 10
  | info => 20
  | error => 40

def text : Level → String
  | debug => "DEBUG"
  | info => "INFO"
  | error => "ERROR"

end Level

inductive LogEvent
  | message (level : Level) (text : String) (values : List (String × Value))
  /-- Something has run for a time. -/
  | timing (phase : String)
  deriving Repr

namespace LogEvent

def level : LogEvent → Level
  | message level _ _ => level
  | timing _ => .debug

/-- The text of an event; `seconds` is how long something has run. -/
def text (seconds : String) : LogEvent → String
  | message _ text values =>
      if values.isEmpty then text
      else
        let pairs := ", ".intercalate (values.map fun (key, value) => key ++ "=" ++ value.str)
        s!"{text} ({pairs})"
  | timing phase => s!"Operation '{phase}' took {seconds}s"

/-- What a phase has done. -/
def complete (phase : String) (counts : List (String × Value)) : LogEvent :=
  message .info s!"{phase} complete" counts

/-- The events that a log keeps: those of its level and above. -/
def kept (level : Nat) (events : List LogEvent) : List LogEvent :=
  events.filter fun event => level ≤ event.level.number

end LogEvent

/-- What ran, with what was recorded meanwhile. -/
abbrev Logged (ε α : Type) := List LogEvent × Except ε α

namespace Logged

variable {ε α : Type}

/-- Runs inside a context. `text?` is what is recorded of an error; errors without a text pass
unrecorded. -/
def inContext (name : String) (text? : ε → Option String) (run : Logged ε α) : Logged ε α :=
  let stop := match run.2 with
    | .ok _ => [.message .debug s!"Completed: {name}" []]
    | .error fault =>
        match text? fault with
        | some text => [.message .error s!"Failed: {name}" [("error", .text text)]]
        | none => []
  (.message .debug s!"Starting: {name}" [] :: run.1 ++ stop, run.2)

/-- Records that a phase has run, however it ends. -/
def timed (phase : String) (run : Logged ε α) : Logged ε α := (run.1 ++ [.timing phase], run.2)

/-- Goes on with a value. What goes on is recorded behind. -/
def andThen {β : Type} (run : Logged ε α) (next : α → Logged ε β) : Logged ε β :=
  match run.2 with
  | .ok a => (run.1 ++ (next a).1, (next a).2)
  | .error fault => (run.1, .error fault)

end Logged

end DocSuite
