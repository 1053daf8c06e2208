import DocSuite.Check.Insert
import DocSuite.Execution.Evaluate
import DocSuite.Proofs.Result
import DocSuite.Sample.Parse

/-!
Tests of errors in a coroutine, of a call and of a block. Main statement: each passes exactly if
what it evaluates comes to the error that is expected, and fails or lets pass everything else, but
for errors whose text cannot be told: there, the exception that asking for the text has raised
leaves the test.
-/
namespace DocSuite

namespace Behavior

/-- What awaiting a result comes to: awaiting goes on as long as it gives something to await. -/
inductive AwaitedTo : Option Awaitable → Except Raised Unit → Prop
  | done : AwaitedTo none (.ok ())
  | raised {awaitable : Awaitable} {raised : Raised} (h : awaitable.await = .error raised) :
      AwaitedTo (some awaitable) (.error raised)
  | next {awaitable : Awaitable} {result : Option Awaitable} {outcome : Except Raised Unit}
      (h : awaitable.await = .ok result) (later : AwaitedTo result outcome) :
      AwaitedTo (some awaitable) outcome

/-- What a call comes to if its result is awaited to the end. -/
inductive CalledTo (behavior : Behavior) : Except Raised Unit → Prop
  | raised {raised : Raised} (h : behavior.call = .error raised) :
      CalledTo behavior (.error raised)
  | next {result : Option Awaitable} {outcome : Except Raised Unit}
      (h : behavior.call = .ok result) (later : AwaitedTo result outcome) :
      CalledTo behavior outcome

theorem awaitedTo_awaitAll (behavior : Behavior) (isCoroutine : Bool) :
    AwaitedTo (some ⟨isCoroutine, behavior⟩) (behavior.awaitAll isCoroutine) := by
  induction behavior generalizing isCoroutine with
  | raises raised => exact .raised rfl
  | ends => exact .next rfl .done
  | awaits coroutine ih => exact .next rfl (ih true)
  | awaitsOther awaitable ih => exact .next rfl (ih false)

theorem AwaitedTo.unique {result : Option Awaitable} {outcome other : Except Raised Unit}
    (h : AwaitedTo result outcome) (h' : AwaitedTo result other) : outcome = other := by
  induction h with
  | done =>
    cases h'
    rfl
  | raised h =>
    cases h' with
    | raised h' =>
      rw [h] at h'
      exact congrArg Except.error (Except.error.inj h')
    | next h' later =>
      rw [h] at h'
      cases h'
  | next h later ih =>
    cases h' with
    | raised h' =>
      rw [h] at h'
      cases h'
    | next h' later' =>
      rw [h] at h'
      cases h'
      exact ih later'

theorem calledTo_finish (behavior : Behavior) : behavior.CalledTo behavior.finish := by
  cases behavior with
  | raises raised => exact .raised rfl
  | ends => exact .next rfl .done
  | awaits coroutine => exact .next rfl (awaitedTo_awaitAll coroutine true)
  | awaitsOther awaitable => exact .next rfl (awaitedTo_awaitAll awaitable false)

theorem CalledTo.unique {behavior : Behavior} {outcome other : Except Raised Unit}
    (h : behavior.CalledTo outcome) (h' : behavior.CalledTo other) : outcome = other := by
  cases h with
  | raised h =>
    cases h' with
    | raised h' =>
      rw [h] at h'
      exact congrArg Except.error (Except.error.inj h')
    | next h' later =>
      rw [h] at h'
      cases h'
  | next h later =>
    cases h' with
    | raised h' =>
      rw [h] at h'
      cases h'
    | next h' later' =>
      rw [h] at h'
      cases h'
      exact later.unique later'

theorem calledTo_iff {behavior : Behavior} {outcome : Except Raised Unit} :
    behavior.CalledTo outcome ↔ outcome = behavior.finish :=
  ⟨fun h => h.unique behavior.calledTo_finish, fun h => h ▸ behavior.calledTo_finish⟩

/-- Without something to await, a call has come to its end. -/
theorem finish_of_call {behavior : Behavior}
    (h : ∀ awaitable, behavior.call ≠ .ok (some awaitable)) :
    behavior.finish = behavior.callOnly := by
  cases behavior with
  | raises raised => rfl
  | ends => rfl
  | awaits coroutine => exact absurd rfl (h ⟨true, coroutine⟩)
  | awaitsOther awaitable => exact absurd rfl (h ⟨false, awaitable⟩)

end Behavior

namespace Raised

/-- An error with the name of its class and its text. -/
structure Is (raised : Raised) (name message : String) : Prop where
  isError : raised.isError = true
  className : raised.className = name
  text : raised.text = .ok message

/-- Only errors with which iterators stop are changed. -/
def SparesOthers (leaves : Raised → Raised) : Prop :=
  ∀ raised, raised.isStop = false → leaves raised = raised

theorem sparesOthers_leaving (kind : String) : SparesOthers (leaving kind) := by
  intro raised h
  rw [leaving, h]
  rfl

theorem isStop_of_not_isError {raised : Raised} (h : raised.isError = false) :
    raised.isStop = false := by
  rw [isError, bne_eq_false_iff_eq] at h
  rw [isStop, h]
  rfl

/-- What has left something is no error with which iterators stop. -/
theorem isStop_leaving (kind : String) (raised : Raised) :
    (leaving kind raised).isStop = false := by
  unfold leaving
  split
  · rfl
  next h => exact Bool.eq_false_iff.mpr h

end Raised

namespace Expect

/-- What is evaluated has ended in an error, and asking for its text raises an exception. -/
structure TextFails (outcome : Except Raised Unit) (raised failing : Raised) : Prop where
  outcome : outcome = .error raised
  isError : raised.isError = true
  text : raised.text = .error failing

/-- A failed test of what has ended in an exception, or in none. -/
structure IsFailure (origin : Option Raised) (answer : Raised) : Prop where
  className : answer.className = "AssertionError"
  origin : answer.origin = origin

/-- The documented answer of a test that expects an error, by what the test has evaluated. -/
structure Promised (name message : String) (outcome answer : Except Raised Unit) : Prop where
  passes_iff : answer = .ok () ↔ ∃ raised, outcome = .error raised ∧ raised.Is name message
  ended : outcome = .ok () → ∃ failure, answer = .error failure ∧ IsFailure none failure
  differs : ∀ raised, outcome = .error raised → raised.isError = true →
    ¬ raised.Is name message → ∃ failure, answer = .error failure ∧ IsFailure (some raised) failure
  passing : ∀ raised, outcome = .error raised → raised.isError = false → answer = .error raised

/-- The answer of a test that expects an error, by what the test has evaluated and by how
exceptions leave the test. -/
structure Answers (leaves : Raised → Raised) (name message : String)
    (outcome answer : Except Raised Unit) : Prop where
  passes_iff : answer = .ok () ↔ ∃ raised, outcome = .error raised ∧ raised.Is name message
  /-- Nothing was raised: not even a failure of the test can be expected. -/
  ended : outcome = .ok () → answer = .error
    { className := "AssertionError"
      message := s!"Expected {name}: {message}, but nothing was raised" }
  /-- An error of another name or text. -/
  differs : ∀ raised text, outcome = .error raised → raised.isError = true →
    raised.text = .ok text → ¬ raised.Is name message → answer = .error
      { className := "AssertionError"
        message := s!"Expected {name}: {message}, got {raised.className}: {text}"
        origin := some raised }
  /-- Not even the name of the error counts. -/
  fails : ∀ raised failing, TextFails outcome raised failing → answer = .error (leaves failing)
  /-- Interrupts and exits. -/
  passing : ∀ raised, outcome = .error raised → raised.isError = false → answer = .error raised

/-- A test answers as documented, unless asking for the text of the error has raised an exception
that is no failed test itself. -/
theorem Answers.promised_iff {leaves : Raised → Raised} {name message : String}
    {outcome answer : Except Raised Unit} (h : Answers leaves name message outcome answer) :
    Promised name message outcome answer ↔
      ∀ raised failing, TextFails outcome raised failing →
        IsFailure (some raised) (leaves failing) := by
  constructor
  · intro hpromised raised failing hfails
    have hnot : ¬ raised.Is name message := fun his => by
      have htext := hfails.text
      rw [his.text] at htext
      cases htext
    obtain ⟨failure, hanswer, hfailure⟩ :=
      hpromised.differs raised hfails.outcome hfails.isError hnot
    rw [h.fails raised failing hfails] at hanswer
    cases hanswer
    exact hfailure
  · intro hfailure
    refine ⟨h.passes_iff, fun hended => ⟨_, h.ended hended, ⟨rfl, rfl⟩⟩, ?_, h.passing⟩
    intro raised hraised herror hnot
    cases htext : raised.text with
    | ok text => exact ⟨_, h.differs raised text hraised herror htext hnot, ⟨rfl, rfl⟩⟩
    | error failing =>
      have hfails : TextFails outcome raised failing := ⟨hraised, herror, htext⟩
      exact ⟨_, h.fails raised failing hfails, hfailure raised failing hfails⟩

section

variable {name message text : String} {raised failing : Raised}

theorem ended_of_not_isError (h : raised.isError = false) :
    ended (.error raised) name message = .error raised := by
  rw [ended, h]
  rfl

theorem ended_of_isError (h : raised.isError = true) :
    ended (.error raised) name message = sameError raised name message := if_pos h

theorem ended_of_is (h : raised.Is name message) : ended (.error raised) name message = .ok () := by
  rw [ended_of_isError h.isError, sameError, h.text]
  exact if_pos ⟨h.className, rfl⟩

theorem ended_of_not_is (herror : raised.isError = true) (htext : raised.text = .ok text)
    (h : ¬ raised.Is name message) :
    ended (.error raised) name message = .error (failure
      s!"Expected {name}: {message}, got {raised.className}: {text}" (some raised)) := by
  rw [ended_of_isError herror, sameError, htext]
  refine if_neg fun (hsame : raised.className = name ∧ text = message) => ?_
  exact h ⟨herror, hsame.1, by rw [htext, hsame.2]⟩

theorem ended_of_fails (h : TextFails (.error raised) raised failing) :
    ended (.error raised) name message = .error failing := by
  rw [ended_of_isError h.isError, sameError, h.text]

/-- A failure is no passed test, so what passes has ended in the error. -/
theorem ended_eq_ok_iff {outcome : Except Raised Unit} :
    ended outcome name message = .ok () ↔
      ∃ raised, outcome = .error raised ∧ raised.Is name message := by
  constructor
  · intro h
    cases outcome with
    | ok _ => cases h
    | error raised =>
      cases herror : raised.isError with
      | false =>
        rw [ended_of_not_isError herror] at h
        cases h
      | true =>
        cases htext : raised.text with
        | error failing =>
          rw [ended_of_fails ⟨rfl, herror, htext⟩] at h
          cases h
        | ok text =>
          by_cases his : raised.Is name message
          · exact ⟨raised, rfl, his⟩
          · rw [ended_of_not_is herror htext his] at h
            cases h
  · rintro ⟨raised, rfl, his⟩
    exact ended_of_is his

end

/-- Failures and interrupts leave a test unchanged. -/
theorem answers_ended {leaves : Raised → Raised} (hl : Raised.SparesOthers leaves)
    (name message : String) (outcome : Except Raised Unit) :
    Answers leaves name message outcome ((ended outcome name message).mapError leaves) where
  passes_iff := by
    rw [← ended_eq_ok_iff]
    cases ended outcome name message with
    | ok _ => exact Iff.rfl
    | error raised =>
      constructor
      · intro h
        cases h
      · intro h
        cases h
  ended := by
    rintro rfl
    exact congrArg Except.error (hl _ rfl)
  differs := by
    rintro raised text rfl herror htext hdiffers
    rw [ended_of_not_is herror htext hdiffers]
    exact congrArg Except.error (hl _ rfl)
  fails := by
    intro raised failing hfails
    obtain rfl := hfails.outcome
    rw [ended_of_fails hfails]
    rfl
  passing := by
    rintro raised rfl hpasses
    rw [ended_of_not_isError hpasses]
    exact congrArg Except.error (hl _ (Raised.isStop_of_not_isError hpasses))

/-- A block that ends with something to await has ended. -/
theorem errorOfBlock_eq (block : Behavior) (name message : String) :
    errorOfBlock block name message = endedInBlock block.callOnly name message := by
  cases block <;> rfl

section

variable (behavior : Behavior) (name message : String)

theorem answers_error : Answers Raised.leavingCoroutine name message behavior.finish
    (error behavior name message) :=
  answers_ended (Raised.sparesOthers_leaving "coroutine") name message behavior.finish

theorem answers_errorOfCall :
    Answers id name message behavior.callOnly (errorOfCall behavior name message) := by
  have hsame : (ended behavior.callOnly name message).mapError id =
      errorOfCall behavior name message := by
    rw [errorOfCall]
    cases ended behavior.callOnly name message <;> rfl
  exact hsame ▸ answers_ended (fun _ _ => rfl) name message behavior.callOnly

theorem answers_errorOfBlock : Answers Raised.leavingGenerator name message behavior.callOnly
    (errorOfBlock behavior name message) := by
  rw [errorOfBlock_eq]
  exact answers_ended (Raised.sparesOthers_leaving "generator") name message behavior.callOnly

end

/-- The tests as a coroutine and around a block agree with the test of a call, unless asking for the
text of an error raises an error with which iterators stop. -/
theorem mapError_leaving_eq_iff (kind : String) {name message : String}
    {outcome answer : Except Raised Unit} (h : Answers id name message outcome answer) :
    answer.mapError (Raised.leaving kind) = answer ↔
      ∀ raised failing, TextFails outcome raised failing → failing.isStop = false := by
  constructor
  · intro hsame raised failing hfails
    rw [h.fails raised failing hfails] at hsame
    have hleaves : Raised.leaving kind failing = failing := Except.error.inj hsame
    rw [← hleaves]
    exact Raised.isStop_leaving kind failing
  · intro hstop
    have hspares := Raised.sparesOthers_leaving kind
    cases houtcome : outcome with
    | ok _ =>
      rw [h.ended houtcome]
      exact congrArg Except.error (hspares _ rfl)
    | error raised =>
      cases herror : raised.isError with
      | false =>
        rw [h.passing raised houtcome herror]
        exact congrArg Except.error (hspares _ (Raised.isStop_of_not_isError herror))
      | true =>
        cases htext : raised.text with
        | error failing =>
          have hfails : TextFails outcome raised failing := ⟨houtcome, herror, htext⟩
          rw [h.fails raised failing hfails]
          exact congrArg Except.error (hspares _ (hstop raised failing hfails))
        | ok text =>
          by_cases his : raised.Is name message
          · rw [h.passes_iff.mpr ⟨raised, houtcome, his⟩]
            rfl
          · rw [h.differs raised text houtcome herror htext his]
            exact congrArg Except.error (hspares _ rfl)

/-- In a coroutine, a test goes by what the call comes to when all is awaited; where nothing can be
awaited, and around a block, it goes by the call. Each answers as documented unless the text of an
error cannot be told. So the three agree on what gives nothing to await, unless iterators stop with
what asking for the text has raised. -/
theorem answers_alike (behavior : Behavior) (name message : String) :
    (∃ outcome, (∀ other, behavior.CalledTo other ↔ other = outcome) ∧
      Answers Raised.leavingCoroutine name message outcome (error behavior name message) ∧
      (Promised name message outcome (error behavior name message) ↔
        ∀ raised failing, TextFails outcome raised failing →
          IsFailure (some raised) failing.leavingCoroutine)) ∧
    Answers id name message (behavior.call.map fun _ => ()) (errorOfCall behavior name message) ∧
    (Promised name message (behavior.call.map fun _ => ()) (errorOfCall behavior name message) ↔
      ∀ raised failing, TextFails (behavior.call.map fun _ => ()) raised failing →
        IsFailure (some raised) failing) ∧
    Answers Raised.leavingGenerator name message (behavior.call.map fun _ => ())
      (errorOfBlock behavior name message) ∧
    (Promised name message (behavior.call.map fun _ => ()) (errorOfBlock behavior name message) ↔
      ∀ raised failing, TextFails (behavior.call.map fun _ => ()) raised failing →
        IsFailure (some raised) failing.leavingGenerator) ∧
    ((∀ awaitable, behavior.call ≠ .ok (some awaitable)) →
      (error behavior name message = errorOfCall behavior name message ∧
          errorOfBlock behavior name message = errorOfCall behavior name message ↔
        ∀ raised failing, TextFails (behavior.call.map fun _ => ()) raised failing →
          failing.isStop = false)) := by
  have hcoroutine := answers_error behavior name message
  have hcall := answers_errorOfCall behavior name message
  have hblock := answers_errorOfBlock behavior name message
  refine ⟨⟨behavior.finish, fun other => Behavior.calledTo_iff, hcoroutine,
    hcoroutine.promised_iff⟩, hcall, hcall.promised_iff, hblock, hblock.promised_iff, ?_⟩
  intro hnone
  have hinCoroutine : error behavior name message =
      (errorOfCall behavior name message).mapError Raised.leavingCoroutine := by
    rw [error, Behavior.finish_of_call hnone, endedInCoroutine, errorOfCall]
  rw [hinCoroutine, errorOfBlock_eq, endedInBlock]
  exact (and_congr (mapError_leaving_eq_iff "coroutine" hcall)
    (mapError_leaving_eq_iff "generator" hcall)).trans and_self_iff

/-- A failed test that is expected in its turn, and that says that nothing was raised. -/
def expectedText : String := "Expected KeyError: 'a', but nothing was raised"

def expectedFailure : Raised := failure expectedText

/-- A coroutine whose coroutine fails in that way. -/
def layeredFailure : Behavior := .awaits (.awaits (.raises expectedFailure))

/-- A dictionary does not have a key that is too long to be written. -/
def longKey : Raised := Evaluation.keyError (.int (Nat.pow 2 20000))

theorem textFails_keyError {key : Object} (h : key.hasLongInteger = true) :
    TextFails (.error (Evaluation.keyError key)) (Evaluation.keyError key) Raised.longInteger where
  outcome := rfl
  isError := by
    rw [Evaluation.keyError, Raised.isError, Raised.family_ofText]
    rfl
  text := by rw [Evaluation.keyError, Raised.text_ofText, Object.shown, if_pos h]

theorem textFails_longKey : TextFails (.error longKey) longKey Raised.longInteger :=
  textFails_keyError (by decide +kernel)

/-- The test of that error as a sample. -/
def longKeySample : Sample :=
  { title := some "Long key", language := "python+test", line := some 3
    source := "\x7b\x7d[1 << 20000]  # TypeError: x\n" }

theorem answers_alike_layeredFailure :
    ((∀ awaitable, (Behavior.raises expectedFailure).call ≠ .ok (some awaitable)) ∧
      errorOfBlock (.raises expectedFailure) "AssertionError" expectedText = .ok () ∧
      error (.raises expectedFailure) "AssertionError" expectedText = .ok ()) ∧
    error layeredFailure "AssertionError" expectedText = .ok () ∧
    (∃ failure, errorOfCall layeredFailure "AssertionError" expectedText = .error failure ∧
      IsFailure none failure) ∧
    errorOfBlock (.raises longKey) "KeyError" "x" = .error Raised.longInteger := by
  have his : expectedFailure.Is "AssertionError" expectedText := ⟨rfl, rfl, rfl⟩
  have hcall : ∀ awaitable, (Behavior.raises expectedFailure).call ≠ .ok (some awaitable) := by
    intro awaitable h
    cases h
  have htext : ∀ raised failing, TextFails
      ((Behavior.raises expectedFailure).call.map fun _ => ()) raised failing →
      failing.isStop = false := by
    rintro raised failing ⟨houtcome, -, htext⟩
    cases houtcome
    cases htext
  obtain ⟨-, -, -, hblock, -, hagree⟩ :=
    answers_alike (.raises expectedFailure) "AssertionError" expectedText
  have hpasses := hblock.passes_iff.mpr ⟨expectedFailure, rfl, his⟩
  have hsame := (hagree hcall).mpr htext
  obtain ⟨⟨outcome, hunique, herror, -⟩, hlayered, -⟩ :=
    answers_alike layeredFailure "AssertionError" expectedText
  have houtcome : Except.error expectedFailure = outcome :=
    (hunique _).mp (.next rfl (.next rfl (.raised rfl)))
  obtain ⟨-, -, -, hlong, -, -⟩ := answers_alike (.raises longKey) "KeyError" "x"
  refine ⟨⟨hcall, hpasses, hsame.1.trans (hsame.2.symm.trans hpasses)⟩,
    herror.passes_iff.mpr ⟨expectedFailure, houtcome.symm, his⟩,
    ⟨_, hlayered.ended rfl, ⟨rfl, rfl⟩⟩, ?_⟩
  exact hlong.fails longKey Raised.longInteger textFails_longKey

/-- None of the three tests fails as documented where the text of the error cannot be told. In a
sample, the case ends with what is wrong with the text. -/
theorem not_promised_longKey :
    ¬ Promised "TypeError" "x" (.error longKey) (error (.raises longKey) "TypeError" "x") ∧
    ¬ Promised "TypeError" "x" (.error longKey) (errorOfCall (.raises longKey) "TypeError" "x") ∧
    ¬ Promised "TypeError" "x" (.error longKey) (errorOfBlock (.raises longKey) "TypeError" "x") ∧
    ∃ body, longKeySample.parse = .ok body ∧
      (match Evaluation.runCase (Checks.insert {} body).1 with
        | .ok () => none
        | .error raised => some (raised.className, raised.message, raised.cause)) =
          some ("ValueError", Raised.longInteger.message, none) := by
  have hnot : ¬ IsFailure (some longKey) Raised.longInteger := fun h => by
    have hname : "ValueError" = "AssertionError" := h.className
    exact absurd hname (by decide)
  have hrun : longKeySample.parse.toOption.map (fun body =>
      match Evaluation.runCase (Checks.insert {} body).1 with
      | .ok () => none
      | .error raised => some (raised.className, raised.message, raised.cause)) =
        some (some ("ValueError", Raised.longInteger.message, none)) := by
    decide +kernel
  obtain ⟨body, hbody, hrun⟩ := exists_of_toOption_map hrun
  refine ⟨fun h => ?_, fun h => ?_, fun h => ?_, body, hbody, hrun⟩
  · have hiff := (answers_error (.raises longKey) "TypeError" "x").promised_iff
    exact hnot (hiff.mp h longKey Raised.longInteger textFails_longKey)
  · have hiff := (answers_errorOfCall (.raises longKey) "TypeError" "x").promised_iff
    exact hnot (hiff.mp h longKey Raised.longInteger textFails_longKey)
  · have hiff := (answers_errorOfBlock (.raises longKey) "TypeError" "x").promised_iff
    exact hnot (hiff.mp h longKey Raised.longInteger textFails_longKey)

end Expect

end DocSuite
