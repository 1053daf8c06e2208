import DocSuite.Suite.Registry

/-!
Descriptions of suites that are carried out. What happens is told without the open suites, as a tree
in which a case stands in the innermost description that is being carried out. Main statement:
behind a description, the open suites are the same, each case is in the suite of the description
that it stands in, and the suites of descriptions that raise an exception are gone.
-/
namespace DocSuite

open DocSuite.Text

/-! ### What happens -/

/-- A case that was taken, or a description with what happened while it was carried out. -/
inductive Event
  | took (case : RegisteredCase)
  | described (key title : String) (inner : List Event) (result : Except Raised Unit)

/-- A case outside of all descriptions. -/
def RegisteredCase.outside (case : RegisteredCase) : Raised where
  className := "RuntimeError"
  message := s!"Case {quoted case.title} registered outside of a suite"

/-- What steps do and how they end, inside some description or outside of all. -/
inductive Runs : (isInside : Bool) → List Registration → List Event → Except Raised Unit → Prop
  | done {isInside : Bool} : Runs isInside [] [] (.ok ())
  | taken {case : RegisteredCase} {rest : List Registration} {events : List Event}
      {result : Except Raised Unit} (later : Runs true rest events result) :
      Runs true (.case case :: rest) (.took case :: events) result
  | refused {case : RegisteredCase} {rest : List Registration} :
      Runs false (.case case :: rest) [] (.error case.outside)
  | raised {isInside : Bool} {raised : Raised} {rest : List Registration} :
      Runs isInside (.raises raised :: rest) [] (.error raised)
  | described {isInside : Bool} {key title : String} {body rest : List Registration}
      {inner events : List Event} {result : Except Raised Unit}
      (first : Runs true body inner (.ok ())) (later : Runs isInside rest events result) :
      Runs isInside (.describe key title body :: rest)
        (.described key title inner (.ok ()) :: events) result
  | broken {isInside : Bool} {key title : String} {body rest : List Registration}
      {inner : List Event} {raised : Raised} (first : Runs true body inner (.error raised)) :
      Runs isInside (.describe key title body :: rest)
        [.described key title inner (.error raised)] (.error raised)
  | quiet {isInside : Bool} {takes : Raised → Bool} {body handler rest : List Registration}
      {inner events : List Event} {result : Except Raised Unit}
      (first : Runs isInside body inner (.ok ())) (later : Runs isInside rest events result) :
      Runs isInside (.handled takes body handler :: rest) (inner ++ events) result
  | passed {isInside : Bool} {takes : Raised → Bool} {body handler rest : List Registration}
      {inner : List Event} {raised : Raised} (first : Runs isInside body inner (.error raised))
      (h : takes raised = false) :
      Runs isInside (.handled takes body handler :: rest) inner (.error raised)
  | handled {isInside : Bool} {takes : Raised → Bool} {body handler rest : List Registration}
      {inner handling events : List Event} {raised : Raised} {result : Except Raised Unit}
      (first : Runs isInside body inner (.error raised)) (h : takes raised = true)
      (second : Runs isInside handler handling (.ok ()))
      (later : Runs isInside rest events result) :
      Runs isInside (.handled takes body handler :: rest) (inner ++ (handling ++ events)) result
  | failed {isInside : Bool} {takes : Raised → Bool} {body handler rest : List Registration}
      {inner handling : List Event} {raised other : Raised}
      (first : Runs isInside body inner (.error raised)) (h : takes raised = true)
      (second : Runs isInside handler handling (.error other)) :
      Runs isInside (.handled takes body handler :: rest) (inner ++ handling) (.error other)

/-- Steps always come to an end. -/
theorem exists_runs (isInside : Bool) : (steps : List Registration) →
    ∃ events result, Runs isInside steps events result
  | [] => ⟨_, _, .done⟩
  | .case case :: rest => by
      cases isInside with
      | false => exact ⟨_, _, .refused⟩
      | true =>
        obtain ⟨events, result, later⟩ := exists_runs true rest
        exact ⟨_, _, .taken later⟩
  | .raises raised :: rest => ⟨_, _, .raised⟩
  | .describe key title body :: rest => by
      obtain ⟨inner, ended, first⟩ := exists_runs true body
      cases ended with
      | error raised => exact ⟨_, _, .broken first⟩
      | ok _ =>
        obtain ⟨events, result, later⟩ := exists_runs isInside rest
        exact ⟨_, _, .described first later⟩
  | .handled takes body handler :: rest => by
      obtain ⟨inner, ended, first⟩ := exists_runs isInside body
      obtain ⟨events, result, later⟩ := exists_runs isInside rest
      cases ended with
      | ok _ => exact ⟨_, _, .quiet first later⟩
      | error raised =>
        cases h : takes raised with
        | false => exact ⟨_, _, .passed first h⟩
        | true =>
          obtain ⟨handling, ended, second⟩ := exists_runs isInside handler
          cases ended with
          | ok _ => exact ⟨_, _, .handled first h second later⟩
          | error other => exact ⟨_, _, .failed first h second⟩

/-! ### What is left behind -/

namespace Event

/-- The cases of the description itself, in the order in which they were taken. -/
def cases : List Event → List RegisteredCase
  | [] => []
  | .took case :: events => case :: cases events
  | .described .. :: events => cases events

mutual

/-- The suites that were described to their end, in the order in which they ended. -/
def suites : Event → List (String × RegisteredSuite)
  | .took _ => []
  | .described key title inner (.ok ()) => suitesOf inner ++ [(key, ⟨title, cases inner⟩)]
  | .described _ _ inner (.error _) => suitesOf inner

def suitesOf : List Event → List (String × RegisteredSuite)
  | [] => []
  | event :: events => event.suites ++ suitesOf events

end

theorem cases_append (events others : List Event) :
    cases (events ++ others) = cases events ++ cases others := by
  induction events with
  | nil => rfl
  | cons event events ih =>
    cases event with
    | took case => rw [List.cons_append, cases, cases, ih, List.cons_append]
    | described => rw [List.cons_append, cases, cases, ih]

theorem suitesOf_append (events others : List Event) :
    suitesOf (events ++ others) = suitesOf events ++ suitesOf others := by
  induction events with
  | nil => rfl
  | cons event events ih => rw [List.cons_append, suitesOf, suitesOf, ih, List.append_assoc]

end Event

namespace Registry

/-- Some suite is being described. -/
def isDescribing (registry : Registry) : Bool := !registry.opened.isEmpty

def keep (suites : List (String × RegisteredSuite)) (kept : String × RegisteredSuite) :
    List (String × RegisteredSuite) := setKey kept.1 kept.2 suites

/-- What events leave behind: the innermost open suite has their cases, and suites that were
described to their end are kept. -/
def after (registry : Registry) (events : List Event) : Registry where
  opened := match registry.opened with
    | [] => []
    | suite :: outer => { suite with cases := suite.cases ++ Event.cases events } :: outer
  suites := (Event.suitesOf events).foldl keep registry.suites

theorem after_nil (registry : Registry) : registry.after [] = registry := by
  obtain ⟨opened, suites⟩ := registry
  cases opened with
  | nil => rfl
  | cons suite outer => simp [after, Event.cases, Event.suitesOf]

theorem after_append (registry : Registry) (events others : List Event) :
    registry.after (events ++ others) = (registry.after events).after others := by
  obtain ⟨opened, suites⟩ := registry
  cases opened with
  | nil => simp [after, Event.suitesOf_append]
  | cons suite outer => simp [after, Event.cases_append, Event.suitesOf_append]

@[simp] theorem isDescribing_after (registry : Registry) (events : List Event) :
    (registry.after events).isDescribing = registry.isDescribing := by
  obtain ⟨opened, suites⟩ := registry
  cases opened <;> rfl

theorem isDescribing_enter (registry : Registry) (title : String) :
    (registry.enter title).isDescribing = true := rfl

/-- A case inside a description. -/
theorem step_case_of_isDescribing {registry : Registry} (h : registry.isDescribing = true)
    (case : RegisteredCase) :
    registry.step (.case case) = (registry.after [.took case], .ok ()) := by
  obtain ⟨opened, suites⟩ := registry
  cases opened with
  | nil => cases h
  | cons suite outer => rfl

theorem step_case_of_not_isDescribing {registry : Registry} (h : registry.isDescribing = false)
    (case : RegisteredCase) :
    registry.step (.case case) = (registry, .error case.outside) := by
  obtain ⟨opened, suites⟩ := registry
  cases opened with
  | nil => rfl
  | cons suite outer => cases h

theorem leave_after_enter (registry : Registry) (key title : String) (inner : List Event)
    (result : Except Raised Unit) :
    ((registry.enter title).after inner).leave key result =
      registry.after [.described key title inner result] := by
  obtain ⟨opened, suites⟩ := registry
  cases result with
  | error raised =>
    cases opened with
    | nil => simp [enter, after, leave, Event.suitesOf, Event.suites]
    | cons suite outer => simp [enter, after, leave, Event.cases, Event.suitesOf, Event.suites]
  | ok _ =>
    cases opened with
    | nil => simp [enter, after, leave, keep, Event.suitesOf, Event.suites]
    | cons suite outer =>
      simp [enter, after, leave, keep, Event.cases, Event.suitesOf, Event.suites]

variable {registry next : Registry} {first : Registration} {rest : List Registration}

theorem steps_cons_ok (h : registry.step first = (next, .ok ())) :
    registry.steps (first :: rest) = next.steps rest := by
  rw [steps, h]

theorem steps_cons_error {raised : Raised} (h : registry.step first = (next, .error raised)) :
    registry.steps (first :: rest) = (next, .error raised) := by
  rw [steps, h]

theorem step_describe (key title : String) {body : List Registration} {inner : List Event}
    {result : Except Raised Unit}
    (h : (registry.enter title).steps body = ((registry.enter title).after inner, result)) :
    registry.step (.describe key title body) =
      (registry.after [.described key title inner result], result) := by
  rw [step, h]
  exact congrArg (·, result) (registry.leave_after_enter key title inner result)

section

variable {takes : Raised → Bool} {body : List Registration} {raised : Raised}
  (handler : List Registration)

theorem step_handled_ok (takes : Raised → Bool) (h : registry.steps body = (next, .ok ())) :
    registry.step (.handled takes body handler) = (next, .ok ()) := by
  rw [step, h]

theorem step_handled_taken (h : registry.steps body = (next, .error raised))
    (ht : takes raised = true) :
    registry.step (.handled takes body handler) = next.steps handler := by
  rw [step, h]
  exact if_pos ht

theorem step_handled_passed (h : registry.steps body = (next, .error raised))
    (ht : takes raised = false) :
    registry.step (.handled takes body handler) = (next, .error raised) := by
  rw [step, h]
  exact if_neg (by simp [ht])

end

/-- The open suites are as good as the tree: steps leave behind what is told of them. -/
theorem steps_of_runs {isInside : Bool} {body : List Registration} {events : List Event}
    {result : Except Raised Unit} (h : Runs isInside body events result) (registry : Registry)
    (hinside : registry.isDescribing = isInside) :
    registry.steps body = (registry.after events, result) := by
  have hafter {registry : Registry} {isInside : Bool} (events : List Event)
      (h : registry.isDescribing = isInside) : (registry.after events).isDescribing = isInside := by
    rw [isDescribing_after, h]
  induction h generalizing registry with
  | done => rw [steps, after_nil]
  | taken later ih =>
    have hfirst := step_case_of_isDescribing hinside
    rw [steps_cons_ok (hfirst _), ih _ (hafter _ hinside), ← after_append]
    rfl
  | refused =>
    rw [steps_cons_error (step_case_of_not_isDescribing hinside _), after_nil]
  | raised => rw [steps_cons_error rfl, after_nil]
  | @described _ key title _ _ _ _ _ first later ihfirst ihlater =>
    have hfirst := step_describe key title (ihfirst _ (registry.isDescribing_enter title))
    rw [steps_cons_ok hfirst, ihlater _ (hafter _ hinside), ← after_append]
    rfl
  | @broken _ key title _ _ _ _ first ihfirst =>
    have hfirst := step_describe key title (ihfirst _ (registry.isDescribing_enter title))
    exact steps_cons_error hfirst
  | @quiet _ takes _ handler _ _ _ _ first later ihfirst ihlater =>
    have hfirst := step_handled_ok handler takes (ihfirst registry hinside)
    rw [steps_cons_ok hfirst, ihlater _ (hafter _ hinside), after_append]
  | passed first h ihfirst =>
    exact steps_cons_error (step_handled_passed _ (ihfirst registry hinside) h)
  | @handled _ _ _ handler _ _ _ _ _ _ first h second later ihfirst ihsecond ihlater =>
    have hfirst := step_handled_taken handler (ihfirst registry hinside) h
    have hsecond := hfirst.trans (ihsecond _ (hafter _ hinside))
    rw [steps_cons_ok hsecond, ihlater _ (hafter _ (hafter _ hinside)),
      after_append, after_append]
  | @failed _ _ _ handler _ _ _ _ _ first h second ihfirst ihsecond =>
    have hfirst := step_handled_taken handler (ihfirst registry hinside) h
    have hsecond := hfirst.trans (ihsecond _ (hafter _ hinside))
    rw [steps_cons_error hsecond, after_append]

/-- The suite that is kept under a key is the last one that was described under it. -/
theorem lookup_after (registry : Registry) (events : List Event) (key : String) :
    (registry.after events).suites.lookup key =
      ((Event.suitesOf events).reverse.lookup key).or (registry.suites.lookup key) := by
  have hfold (kept suites : List (String × RegisteredSuite)) :
      (kept.foldl keep suites).lookup key = (kept.reverse.lookup key).or (suites.lookup key) := by
    induction kept generalizing suites with
    | nil => rfl
    | cons suite kept ih =>
      obtain ⟨other, suite⟩ := suite
      rw [List.foldl_cons, ih, List.reverse_cons, List.lookup_append, Option.or_assoc]
      congr 1
      by_cases h : key = other
      · subst h
        simp [keep, lookup_setKey]
      · rw [keep, lookup_setKey_of_ne h, List.lookup_cons, beq_false_of_ne h]
        rfl
  exact hfold _ _

end Registry

/-- The event is one of some events, or stands in one of them at any depth. -/
inductive Event.Within (event : Event) : List Event → Prop
  | here {events : List Event} (h : event ∈ events) : Within event events
  | inside {events : List Event} {key title : String} {inner : List Event}
      {result : Except Raised Unit} (h : .described key title inner result ∈ events)
      (later : Within event inner) : Within event events

namespace Event

theorem Within.mono {event : Event} {events others : List Event} (h : event.Within events)
    (hsub : events ⊆ others) : event.Within others := by
  cases h with
  | here h => exact .here (hsub h)
  | inside h later => exact .inside (hsub h) later

theorem mem_suitesOf_of_mem {event : Event} {events : List Event} (h : event ∈ events)
    {kept : String × RegisteredSuite} (hkept : kept ∈ event.suites) : kept ∈ suitesOf events := by
  induction events with
  | nil => cases h
  | cons first events ih =>
    rw [suitesOf, List.mem_append]
    rcases List.mem_cons.mp h with rfl | h
    · exact .inl hkept
    · exact .inr (ih h)

theorem mem_suites_of_mem {key title other : String} {suite : RegisteredSuite}
    {inner : List Event} {result : Except Raised Unit} (h : (other, suite) ∈ suitesOf inner) :
    (other, suite) ∈ (described key title inner result).suites := by
  cases result with
  | ok _ => exact List.mem_append_left _ h
  | error raised => exact h

theorem mem_suitesOf_of_within {key title : String} {inner events : List Event}
    (h : (described key title inner (.ok ())).Within events) :
    (key, ⟨title, cases inner⟩) ∈ suitesOf events := by
  induction h with
  | here h => exact mem_suitesOf_of_mem h (List.mem_append_right _ (List.mem_singleton.mpr rfl))
  | inside h later ih => exact mem_suitesOf_of_mem h (mem_suites_of_mem ih)

/-- Each suite that is kept was described to its end, and has the cases of that description. -/
theorem exists_within_of_mem {key : String} {suite : RegisteredSuite} : (events : List Event) →
    (key, suite) ∈ suitesOf events →
      ∃ inner, (described key suite.title inner (.ok ())).Within events ∧ suite.cases = cases inner
  | [], h => by cases h
  | .took case :: events, h => by
      rw [suitesOf, suites, List.nil_append] at h
      obtain ⟨inner, hwithin, hcases⟩ := exists_within_of_mem events h
      exact ⟨inner, hwithin.mono (List.subset_cons_self _ _), hcases⟩
  | .described other title body result :: events, h => by
      have hbody (h : (key, suite) ∈ suitesOf body) : ∃ inner,
          (described key suite.title inner (.ok ())).Within
            (described other title body result :: events) ∧ suite.cases = cases inner := by
        obtain ⟨inner, hwithin, hcases⟩ := exists_within_of_mem body h
        exact ⟨inner, .inside List.mem_cons_self hwithin, hcases⟩
      rw [suitesOf, List.mem_append] at h
      rcases h with h | h
      · cases result with
        | error raised => exact hbody h
        | ok _ =>
          rw [suites, List.mem_append, List.mem_singleton] at h
          rcases h with h | h
          · exact hbody h
          · cases h
            exact ⟨body, .here List.mem_cons_self, rfl⟩
      · obtain ⟨inner, hwithin, hcases⟩ := exists_within_of_mem events h
        exact ⟨inner, hwithin.mono (List.subset_cons_self _ _), hcases⟩

end Event

/-- Registries before and after some events. -/
structure Bracketed (before : Registry) (events : List Event) (after : Registry) : Prop where
  /-- The same suites are open. -/
  outer : after.opened.tail = before.opened.tail
  /-- The innermost one has taken the cases that stand in no description. -/
  innermost : after.opened.head? =
    before.opened.head?.map fun suite => { suite with cases := suite.cases ++ Event.cases events }
  kept : ∀ key, after.suites.lookup key =
    ((Event.suitesOf events).reverse.lookup key).or (before.suites.lookup key)
  /-- Only descriptions that ended without an exception leave a suite. -/
  complete : ∀ key suite, (key, suite) ∈ Event.suitesOf events ↔ ∃ inner,
    (Event.described key suite.title inner (.ok ())).Within events ∧
      suite.cases = Event.cases inner

theorem Registry.bracketed_after (registry : Registry) (events : List Event) :
    Bracketed registry events (registry.after events) where
  outer := by
    obtain ⟨opened, suites⟩ := registry
    cases opened <;> rfl
  innermost := by
    obtain ⟨opened, suites⟩ := registry
    cases opened <;> rfl
  kept := registry.lookup_after events
  complete := by
    intro key suite
    refine ⟨Event.exists_within_of_mem events, ?_⟩
    rintro ⟨inner, hwithin, hcases⟩
    have hmem := Event.mem_suitesOf_of_within hwithin
    rwa [← hcases] at hmem

/-- What steps do from any state of the open suites. -/
theorem steps_bracketed (registry : Registry) (body : List Registration) :
    (∃ events, Runs registry.isDescribing body events (registry.steps body).2) ∧
    (∀ events result, Runs registry.isDescribing body events result →
      (registry.steps body).2 = result ∧ Bracketed registry events (registry.steps body).1) ∧
    (∀ key title raised, ((registry.enter title).steps body).2 = .error raised →
      registry.step (.describe key title body) =
        ({ registry with suites := ((registry.enter title).steps body).1.suites },
          .error raised)) ∧
    ∀ case, registry.opened = [] →
      registry.step (.case case) = (registry, .error
        { className := "RuntimeError"
          message := s!"Case {quoted case.title} registered outside of a suite" }) := by
  have hsteps {events : List Event} {result : Except Raised Unit}
      (h : Runs registry.isDescribing body events result) := Registry.steps_of_runs h registry rfl
  refine ⟨?_, ?_, ?_, ?_⟩
  · obtain ⟨events, result, hruns⟩ := exists_runs registry.isDescribing body
    refine ⟨events, ?_⟩
    rw [hsteps hruns]
    exact hruns
  · intro events result hruns
    rw [hsteps hruns]
    exact ⟨rfl, registry.bracketed_after events⟩
  · intro key title raised hraised
    obtain ⟨inner, result, hruns⟩ := exists_runs true body
    have hinner := Registry.steps_of_runs hruns (registry.enter title) rfl
    rw [hinner] at hraised
    cases hraised
    rw [Registry.step_describe key title hinner, hinner]
    obtain ⟨opened, suites⟩ := registry
    cases opened <;>
      simp [Registry.after, Registry.enter, Event.cases, Event.suitesOf, Event.suites]
  · intro case hnone
    exact Registry.step_case_of_not_isDescribing (by rw [Registry.isDescribing, hnone]; rfl) case

namespace BracketedSteps

def failing : Raised := { className := "ValueError", message := "bad" }

def case (title : String) : RegisteredCase := ⟨title, false, .ends⟩

/-- A description that fails behind a case. -/
def broken : Registration := .describe "inner" "Inner" [.case (case "lost"), .raises failing]

/-- A description with one that fails, and whose failure is taken. -/
def body : List Registration :=
  [.describe "outer" "Outer"
      [.case (case "first"), .handled Raised.isError [broken] [.case (case "taken")],
        .describe "last" "Last" [.case (case "own")], .case (case "second")],
    .case (case "top")]

def start : Registry := { opened := [{ title := "Top" }] }

def events : List Event :=
  [.described "outer" "Outer"
      [.took (case "first"), .described "inner" "Inner" [.took (case "lost")] (.error failing),
        .took (case "taken"), .described "last" "Last" [.took (case "own")] (.ok ()),
        .took (case "second")] (.ok ()),
    .took (case "top")]

theorem runs_body : Runs true body events (.ok ()) :=
  have hbroken : Runs true [broken]
      [.described "inner" "Inner" [.took (case "lost")] (.error failing)] (.error failing) :=
    .broken (.taken .raised)
  have hlast : Runs true [.describe "last" "Last" [.case (case "own")], .case (case "second")]
      [.described "last" "Last" [.took (case "own")] (.ok ()), .took (case "second")] (.ok ()) :=
    .described (.taken .done) (.taken .done)
  .described (.taken (.handled hbroken rfl (.taken .done) hlast)) (.taken .done)

end BracketedSteps

open BracketedSteps

theorem steps_bracketed_brokenDescription :
    (Runs start.isDescribing body events (start.steps body).2 ∧
      (start.steps body).1.opened.head? = some ⟨"Top", [case "top"]⟩ ∧
      (start.steps body).1.suites.lookup "outer" =
        some ⟨"Outer", [case "first", case "taken", case "second"]⟩ ∧
      (start.steps body).1.suites.lookup "inner" = none) ∧
    (((start.enter "Inner").steps [.case (case "lost"), .raises failing]).2 = .error failing ∧
      (start.step broken).2 = .error failing) ∧
    ∃ raised, (Registry.step {} (.case (case "top"))) = ({}, .error raised) := by
  obtain ⟨-, hruns, -, -⟩ := steps_bracketed start body
  obtain ⟨hresult, hbracketed⟩ := hruns events (.ok ()) runs_body
  obtain ⟨-, -, hdescribe, -⟩ :=
    steps_bracketed start [.case (case "lost"), .raises failing]
  have hbroken : ((start.enter "Inner").steps [.case (case "lost"), .raises failing]).2 =
      .error failing := rfl
  refine ⟨⟨?_, hbracketed.innermost, hbracketed.kept "outer", hbracketed.kept "inner"⟩,
    ⟨hbroken, ?_⟩, ?_⟩
  · rw [hresult]
    exact runs_body
  · exact congrArg Prod.snd (hdescribe "inner" "Inner" failing hbroken)
  · obtain ⟨-, -, -, houtside⟩ := steps_bracketed {} []
    exact ⟨_, houtside (case "top") rfl⟩

end DocSuite
