import DocSuite.Execution.Behavior

/-!
Testing expectations while a suite runs. An error is expected by the name of its class and its text,
both exactly. The text is asked for first, so what that raises leaves the test. Main statement: a
test of an error passes if the evaluation ends in that error, and in no other case.
-/
namespace DocSuite

namespace Expect

/-- A failed test. -/
def failure (message : String) (origin : Option Raised := none) : Raised :=
  { className := "AssertionError", message, origin }

/-- The literal form of a value is a text. -/
def text (actual expected : String) : Except Raised Unit :=
  if actual = expected then .ok ()
  else .error (failure s!"Expected {expected}, got {actual}")

def value (value : Value) (expected : String) : Except Raised Unit := do
  text (← Raised.literal value) expected

/-- An exception is the one that is expected. -/
def sameError (raised : Raised) (name message : String) : Except Raised Unit :=
  match raised.text with
  | .error failing => .error failing
  | .ok actual =>
      if raised.className = name ∧ actual = message then .ok ()
      else
        let text := s!"Expected {name}: {message}, got {raised.className}: {actual}"
        .error (failure text (some raised))

/-- What is evaluated has ended in the error that is expected. -/
def ended (result : Except Raised Unit) (name message : String) : Except Raised Unit :=
  match result with
  | .ok () => .error (failure s!"Expected {name}: {message}, but nothing was raised")
  | .error raised => if raised.isError then sameError raised name message else .error raised

/-- The test of an error as a coroutine, with what it has evaluated. -/
def endedInCoroutine (result : Except Raised Unit) (name message : String) : Except Raised Unit :=
  (ended result name message).mapError Raised.leavingCoroutine

/-- The test of an error around a block, which is a generator. -/
def endedInBlock (result : Except Raised Unit) (name message : String) : Except Raised Unit :=
  (ended result name message).mapError Raised.leavingGenerator

/-- In a coroutine: what is called is awaited to its end. -/
def error (thunk : Behavior) (name message : String) : Except Raised Unit :=
  endedInCoroutine thunk.finish name message

/-- Where nothing can be awaited. -/
def errorOfCall (thunk : Behavior) (name message : String) : Except Raised Unit :=
  ended thunk.callOnly name message

/-- Around a block, whose behavior is that of its statements. -/
def errorOfBlock (block : Behavior) (name message : String) : Except Raised Unit :=
  let result := match block with
    | .raises raised => .error raised
    | .ends | .awaits _ | .awaitsOther _ => .ok ()
  endedInBlock result name message

end Expect

end DocSuite
