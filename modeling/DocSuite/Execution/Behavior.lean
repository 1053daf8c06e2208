import DocSuite.Execution.Raised

/-!
What an evaluation does: it raises an exception, or it ends, possibly with something that can be
awaited and behaves in its turn. Coroutines let no error pass with which iterators stop; awaiting
something else lets all pass. Main statement: awaiting an evaluation to its end goes through all
that can be awaited.
-/
namespace DocSuite

inductive Behavior
  | raises (raised : Raised)
  | ends
  /-- Ends with a coroutine. -/
  | awaits (coroutine : Behavior)
  /-- Ends with something else that can be awaited. -/
  | awaitsOther (awaitable : Behavior)
  deriving Repr

/-- Something that can be awaited, with what it does then. -/
structure Awaitable where
  isCoroutine : Bool
  behavior : Behavior

namespace Behavior

instance : Inhabited Behavior := ⟨ends⟩

/-- What a call gives: something that can be awaited, or not. -/
def call : Behavior → Except Raised (Option Awaitable)
  | raises raised => .error raised
  | ends => .ok none
  | awaits coroutine => .ok (some ⟨true, coroutine⟩)
  | awaitsOther awaitable => .ok (some ⟨false, awaitable⟩)

/-- What comes out of a coroutine, or of something else, that raises an exception. -/
def leaving (isCoroutine : Bool) (raised : Raised) : Raised :=
  if isCoroutine then raised.leavingCoroutine else raised

/-- Does what is to be done, in a coroutine or not, and awaits what it gives as long as that can be
awaited. -/
def awaitAll (isCoroutine : Bool) : Behavior → Except Raised Unit
  | raises raised => .error (leaving isCoroutine raised)
  | ends => .ok ()
  | awaits coroutine => coroutine.awaitAll true
  | awaitsOther awaitable => awaitable.awaitAll false

/-- Calls, and awaits what the call gives to its end. -/
def finish (behavior : Behavior) : Except Raised Unit := behavior.awaitAll false

/-- Calls without awaiting. -/
def callOnly (behavior : Behavior) : Except Raised Unit := behavior.call.map fun _ => ()

end Behavior

namespace Awaitable

/-- What awaiting it gives. -/
def await (awaitable : Awaitable) : Except Raised (Option Awaitable) :=
  awaitable.behavior.call.mapError (Behavior.leaving awaitable.isCoroutine)

/-- Awaits it, but not what it gives. -/
def awaitOnly (awaitable : Awaitable) : Except Raised Unit := awaitable.await.map fun _ => ()

end Awaitable

end DocSuite
