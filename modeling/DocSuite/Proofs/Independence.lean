import DocSuite.Proofs.Hoisting
import DocSuite.Proofs.Thunk
import Mathlib.Algebra.GroupWithZero.Nat

/-!
Samples that get their checks one after the other. Main statement: a sample gets the checks that it
would get alone, with the numbers of its functions raised by the number of functions made for the
samples before it, and what is known of a sequence of samples is what is known of each of them.
-/
namespace DocSuite

open DocSuite.Syntax

/-! ### Renumbering the functions of checks -/

/-- The name of a function that a check makes, with its number raised. Other names stay. -/
def Ledger.renumber (count : Nat) (name : String) : String :=
  match thunkNumber? name with
  | some number => thunkName (number + count)
  | none => name

/-- What checks call with a function that they make. -/
def thunkCallers : List String := ["assert_error", "assert_error_sync"]

/-- The call of a check, with the number of the function that it is given raised. -/
def renumberCall (count : Nat) : Expr → Expr
  | ⟨line, .call ⟨place, .attribute module function⟩ (⟨spot, .name called⟩ :: args) keywords⟩ =>
      let called := if thunkCallers.contains function then Ledger.renumber count called else called
      ⟨line, .call ⟨place, .attribute module function⟩ (⟨spot, .name called⟩ :: args) keywords⟩
  | e => e

/-- A statement of a check, with the number of the function that it makes or calls raised. The
expression that it holds stays, whatever names are in it. -/
def renumberCheck (count : Nat) : Stmt → Stmt
  | .compound site (.function isAsync name params decorators returns) blocks =>
      .compound site
        (.function isAsync (Ledger.renumber count name) params decorators returns) blocks
  | .simple site (.expr ⟨line, .await call⟩) =>
      .simple site (.expr ⟨line, .await (renumberCall count call)⟩)
  | .simple site (.expr call) => .simple site (.expr (renumberCall count call))
  | stmt => stmt

mutual

/-- The statement with the numbers in its checks raised. -/
def renumberStmt (count : Nat) : Stmt → Stmt
  | .simple site form =>
      if site.recorded then renumberCheck count (.simple site form) else .simple site form
  | .compound site head blocks =>
      if site.recorded then renumberCheck count (.compound site head blocks)
      else .compound site head (renumberBlocks count blocks)

def renumberBlocks (count : Nat) : List Block → List Block
  | [] => []
  | ⟨label, body⟩ :: rest => ⟨label, renumberBody count body⟩ :: renumberBlocks count rest

def renumberBody (count : Nat) : List Stmt → List Stmt
  | [] => []
  | stmt :: rest => renumberStmt count stmt :: renumberBody count rest

end

section

variable {count : Nat}

theorem Ledger.renumber_thunkName (number : Nat) :
    renumber count (thunkName number) = thunkName (number + count) := by
  rw [renumber, thunkNumber?_thunkName]

@[simp] theorem renumberBody_append (as bs : List Stmt) :
    renumberBody count (as ++ bs) = renumberBody count as ++ renumberBody count bs := by
  induction as with
  | nil => rfl
  | cons a as ih => simp [renumberBody, ih]

@[simp] theorem renumberBlocks_append (as bs : List Block) :
    renumberBlocks count (as ++ bs) = renumberBlocks count as ++ renumberBlocks count bs := by
  induction as with
  | nil => rfl
  | cons a as ih =>
    obtain ⟨label, body⟩ := a
    simp [renumberBlocks, ih]

@[simp] theorem length_renumberBody (body : List Stmt) :
    (renumberBody count body).length = body.length := by
  induction body with
  | nil => rfl
  | cons stmt rest ih => simp [renumberBody, ih]

theorem renumberBody_eq_nil {body : List Stmt} : renumberBody count body = [] ↔ body = [] := by
  rw [← List.length_eq_zero_iff, length_renumberBody, List.length_eq_zero_iff]

theorem renumberStmt_of_unrecorded {site : Site} {form : Simple} (hr : site.recorded = false) :
    renumberStmt count (.simple site form) = .simple site form := by
  rw [renumberStmt, hr, if_neg Bool.false_ne_true]

theorem renumberBlocks_block (label : Label) (before after : List Stmt) :
    renumberBlocks count (Checks.block label before after) =
      Checks.block label before (renumberBody count after) := by
  cases before with
  | nil => cases label <;> rfl
  | cons first others =>
    cases after with
    | nil => cases label <;> rfl
    | cons stmt after => cases label <;> rfl

/-! ### The check of a value and the check of an error -/

theorem renumberBody_value (x : Expr) (expected : String) :
    renumberBody count [Check.value x expected] = [Check.value x expected] := by
  obtain ⟨line, form⟩ := x
  cases form <;> rfl

theorem renumberBody_error (x : Expr) (name message : String) (number : Nat) (inCoroutine : Bool) :
    renumberBody count (Check.error x name message (Ledger.thunkName number) inCoroutine) =
      Check.error x name message (Ledger.thunkName (number + count)) inCoroutine := by
  rw [← Ledger.renumber_thunkName]
  cases inCoroutine <;> rfl

theorem renumberBody_inlineError (x : Expr) (name message : String) :
    renumberBody count [Check.inlineError x name message] = [Check.inlineError x name message] :=
  rfl

end

/-! ### Checks behind others -/

namespace Checks

/-- What is known of samples and of others behind them, whose functions are renumbered. -/
def append (a b : Checks) : Checks where
  ledger :=
    { nodes := a.ledger.nodes ++ renumberBody a.ledger.thunkCount b.ledger.nodes
      thunkCount := a.ledger.thunkCount + b.ledger.thunkCount }
  imports := a.imports ++ b.imports
  findings := a.findings ++ b.findings

/-- A result with what others knew before it. -/
def after (a : Checks) (result : List Stmt × Checks) : List Stmt × Checks :=
  (renumberBody a.ledger.thunkCount result.1, a.append result.2)

theorem append_empty (a : Checks) : a.append {} = a := by
  simp [append, renumberBody]

theorem append_hoist (a b : Checks) (stmt : Stmt) :
    (a.append b).hoist stmt = a.append (b.hoist stmt) := by
  simp [append, hoist]

theorem statements_append (a b : Checks) (scope : Scope) (x : Expr) (e : Expectation) :
    (a.append b).statements scope x e = a.after (b.statements scope x e) := by
  cases e with
  | value expected => simp only [statements, after, renumberBody_value]
  | error name message =>
    cases scope with
    | classBody => simp only [statements, after, renumberBody_inlineError]
    | coroutine | function =>
      simp only [statements, after, Ledger.nextThunk, renumberBody_error]
      simp only [append, Nat.add_assoc, Nat.add_comm]

theorem check_append (a b : Checks) (scope : Scope) (line : Nat) (x : Expr) (e : Expectation) :
    (a.append b).check scope line x e = a.after (b.check scope line x e) := by
  simp only [check, statements_append, after]
  simp only [append, Ledger.record, renumberBody_append, List.append_assoc]

theorem simple_append (a b : Checks) (scope : Scope) {site : Site} (form : Simple)
    (hr : site.recorded = false) :
    (a.append b).simple scope (.simple site form) =
      a.after (b.simple scope (.simple site form)) := by
  rcases simple_cases b scope form hr with ⟨x, e, he, -, hb⟩ | ⟨-, hi, hb⟩ | ⟨he, hi, hb⟩
  · rw [hb, simple_of_expectation hr he, check_append]
  · rw [hb, simple_of_isImport hr hi, append_hoist]
    rfl
  · rw [hb, simple_of_other hr he hi, after, renumberBody, renumberStmt_of_unrecorded hr]
    rfl

mutual

theorem insertStmt_append (stmt : Stmt) (scope : Scope) (a b : Checks) (h : Fresh stmt.nodes) :
    (a.append b).insertStmt scope stmt = a.after (b.insertStmt scope stmt) := by
  cases stmt with
  | simple site form =>
    rw [insertStmt, insertStmt]
    exact simple_append a b scope form (by simpa [Stmt.nodes] using h)
  | compound site head blocks =>
    simp only [Stmt.nodes, fresh_cons, Stmt.site_compound] at h
    have hb := insertBlocks_append blocks (scope.enter head) a b h.2
    rw [insertStmt_compound _ scope head blocks h.1, insertStmt_compound b scope head blocks h.1,
      hb]
    simp [after, renumberBody, renumberStmt, h.1]

theorem insertBlocks_append (blocks : List Block) (scope : Scope) (a b : Checks)
    (h : Fresh (nodesOfBlocks blocks)) :
    (a.append b).insertBlocks scope blocks =
      (renumberBlocks a.ledger.thunkCount (b.insertBlocks scope blocks).1,
        a.append (b.insertBlocks scope blocks).2) := by
  cases blocks with
  | nil => rfl
  | cons block rest =>
    obtain ⟨label, before⟩ := block
    simp only [nodesOfBlocks, fresh_append] at h
    have hbody := insertBody_append before scope a b h.1
    have hrest := insertBlocks_append rest scope a (b.insertBody scope before).2 h.2
    rw [insertBlocks_cons, insertBlocks_cons, hbody, after, hrest, renumberBlocks_append,
      renumberBlocks_block]

theorem insertBody_append (body : List Stmt) (scope : Scope) (a b : Checks)
    (h : Fresh (nodesOf body)) :
    (a.append b).insertBody scope body = a.after (b.insertBody scope body) := by
  cases body with
  | nil => rfl
  | cons stmt rest =>
    simp only [nodesOf, fresh_append] at h
    have hstmt := insertStmt_append stmt scope a b h.1
    have hrest := insertBody_append rest scope a (b.insertStmt scope stmt).2 h.2
    rw [insertBody_cons, insertBody_cons, hstmt, after, hrest]
    simp only [after, renumberBody_append]

end

theorem insert_append (a b : Checks) {body : List Stmt} (h : Fresh (nodesOf body)) :
    (a.append b).insert body = a.after (b.insert body) := by
  simp only [insert, insertBody_append body .coroutine a b h, after, List.isEmpty_iff,
    renumberBody_eq_nil]
  split
  next => rfl
  next => rfl

/-- A sample gets the checks that it would get alone, renumbered. -/
theorem insert_eq_after (checks : Checks) {body : List Stmt} (h : Fresh (nodesOf body)) :
    checks.insert body = checks.after (insert {} body) := by
  have happend := insert_append checks {} h
  rw [append_empty] at happend
  exact happend

/-! ### Sequences of samples -/

/-- What is known of a sample that gets its checks alone. -/
def alone (body : List Stmt) : Checks := (insert {} body).2

/-- The number of functions that are made for a sample. -/
def thunks (body : List Stmt) : Nat := (alone body).ledger.thunkCount

def totalThunks (bodies : List (List Stmt)) : Nat := (bodies.map thunks).sum

theorem insertAll_append (checks : Checks) (as bs : List (List Stmt)) :
    checks.insertAll (as ++ bs) =
      ((checks.insertAll as).1 ++ ((checks.insertAll as).2.insertAll bs).1,
        ((checks.insertAll as).2.insertAll bs).2) := by
  induction as generalizing checks with
  | nil => rfl
  | cons a as ih => simp only [List.cons_append, insertAll, ih]

theorem length_insertAll (checks : Checks) (bodies : List (List Stmt)) :
    (checks.insertAll bodies).1.length = bodies.length := by
  induction bodies generalizing checks with
  | nil => rfl
  | cons body rest ih => simp only [insertAll, List.length_cons, ih]

theorem thunkCount_insert (checks : Checks) {body : List Stmt} (h : Fresh (nodesOf body)) :
    (checks.insert body).2.ledger.thunkCount = checks.ledger.thunkCount + thunks body := by
  rw [insert_eq_after checks h]
  rfl

section

variable {bodies : List (List Stmt)}

/-- What is known of a sequence of samples is known of them one by one. -/
structure Sums (checks : Checks) (bodies : List (List Stmt)) (checks' : Checks) : Prop where
  imports : checks'.imports = checks.imports ++ bodies.flatMap fun body => (alone body).imports
  findings : checks'.findings = checks.findings ++ bodies.flatMap fun body => (alone body).findings
  thunks : checks'.ledger.thunkCount = checks.ledger.thunkCount + totalThunks bodies
  size : checks'.ledger.size =
    checks.ledger.size + (bodies.map fun body => (alone body).ledger.size).sum

theorem sums_insertAll (checks : Checks) (h : ∀ body ∈ bodies, Fresh (nodesOf body)) :
    Sums checks bodies (checks.insertAll bodies).2 := by
  induction bodies generalizing checks with
  | nil => exact ⟨by simp [insertAll], by simp [insertAll], rfl, rfl⟩
  | cons body rest ih =>
    rw [List.forall_mem_cons] at h
    obtain ⟨himports, hfindings, hthunks, hsize⟩ := ih (checks.insert body).2 h.2
    have hinsert : (checks.insert body).2 = checks.append (alone body) := by
      rw [insert_eq_after checks h.1]
      rfl
    rw [hinsert] at himports hfindings hthunks hsize
    rw [insertAll, hinsert]
    constructor
    · rw [himports, List.flatMap_cons, ← List.append_assoc]
      rfl
    · rw [hfindings, List.flatMap_cons, ← List.append_assoc]
      rfl
    · rw [hthunks, totalThunks, totalThunks, List.map_cons, List.sum_cons, ← Nat.add_assoc]
      rfl
    · rw [hsize, List.map_cons, List.sum_cons, ← Nat.add_assoc]
      simp only [append, Ledger.size, List.length_append, length_renumberBody]

/-- Of what is known before, only the number of functions matters for what is put into samples. -/
theorem insertAll_congr {checks checks' : Checks} (h : ∀ body ∈ bodies, Fresh (nodesOf body))
    (hcount : checks.ledger.thunkCount = checks'.ledger.thunkCount) :
    (checks.insertAll bodies).1 = (checks'.insertAll bodies).1 := by
  induction bodies generalizing checks checks' with
  | nil => rfl
  | cons body rest ih =>
    rw [List.forall_mem_cons] at h
    have hnext : (checks.insert body).2.ledger.thunkCount =
        (checks'.insert body).2.ledger.thunkCount := by
      rw [thunkCount_insert checks h.1, thunkCount_insert checks' h.1, hcount]
    have hfirst : (checks.insert body).1 = (checks'.insert body).1 := by
      rw [insert_eq_after checks h.1, insert_eq_after checks' h.1, after, after, hcount]
    rw [insertAll, insertAll, hfirst, ih h.2 hnext]

theorem out_insertAll {before after : List (List Stmt)} {body : List Stmt}
    (h : ∀ other ∈ before ++ body :: after, Fresh (nodesOf other)) :
    (insertAll {} (before ++ body :: after)).1[before.length]? =
      some (renumberBody (totalThunks before) (insert {} body).1) := by
  rw [List.forall_mem_append, List.forall_mem_cons] at h
  have hcount : (insertAll {} before).2.ledger.thunkCount = totalThunks before := by
    rw [(sums_insertAll {} h.1).thunks]
    exact Nat.zero_add _
  have hlength := length_insertAll {} before
  rw [insertAll_append, insertAll, List.getElem?_append_right (Nat.le_of_eq hlength), hlength,
    Nat.sub_self, List.getElem?_cons_zero, insert_eq_after _ h.2.1, Checks.after, hcount]

/-- Samples around others are the same whatever the others are, if as many functions are made for
them. -/
theorem insertAll_around {before old new after : List (List Stmt)}
    (hbefore : ∀ body ∈ before, Fresh (nodesOf body)) (hold : ∀ body ∈ old, Fresh (nodesOf body))
    (hnew : ∀ body ∈ new, Fresh (nodesOf body)) (hafter : ∀ body ∈ after, Fresh (nodesOf body))
    (hcount : totalThunks new = totalThunks old) :
    (insertAll {} (before ++ new ++ after)).1.take before.length =
        (insertAll {} (before ++ old ++ after)).1.take before.length ∧
      (insertAll {} (before ++ new ++ after)).1.drop (before ++ new).length =
        (insertAll {} (before ++ old ++ after)).1.drop (before ++ old).length := by
  have htake (others : List (List Stmt)) :
      (insertAll {} (before ++ others ++ after)).1.take before.length =
        (insertAll {} before).1 := by
    rw [List.append_assoc, insertAll_append]
    exact List.take_left' (length_insertAll {} before)
  have hdrop (others : List (List Stmt)) :
      (insertAll {} (before ++ others ++ after)).1.drop (before ++ others).length =
        ((insertAll {} (before ++ others)).2.insertAll after).1 := by
    rw [insertAll_append]
    exact List.drop_left' (length_insertAll {} (before ++ others))
  have hsame : (insertAll {} (before ++ new)).2.ledger.thunkCount =
      (insertAll {} (before ++ old)).2.ledger.thunkCount := by
    rw [(sums_insertAll {} (List.forall_mem_append.mpr ⟨hbefore, hnew⟩)).thunks,
      (sums_insertAll {} (List.forall_mem_append.mpr ⟨hbefore, hold⟩)).thunks]
    simp only [totalThunks, List.map_append, List.sum_append] at hcount ⊢
    rw [hcount]
  constructor
  · rw [htake, htake]
  · rw [hdrop, hdrop, insertAll_congr hafter hsame]

end

end Checks

open Checks

/-- The samples of a sequence get their checks apart from each other, but for the numbers of the
functions that are made for them. -/
structure Apart (bodies : List (List Stmt)) : Prop where
  length : (insertAll {} bodies).1.length = bodies.length
  outs : ∀ before body after, bodies = before ++ body :: after →
    (insertAll {} bodies).1[before.length]? =
      some (renumberBody (totalThunks before) (insert {} body).1)
  imports : (insertAll {} bodies).2.imports = bodies.flatMap fun body => (alone body).imports
  findings : (insertAll {} bodies).2.findings.length =
    (bodies.map fun body => (alone body).findings.length).sum
  thunks : (insertAll {} bodies).2.ledger.thunkCount = (bodies.map thunks).sum
  size : (insertAll {} bodies).2.ledger.size =
    (bodies.map fun body => (alone body).ledger.size).sum

/-- A sample of a sequence gets the checks that it would get alone, renumbered by the functions that
are made for the samples before it, and what is known of all samples is the sum of what is known of
each. So samples can be put in, left out or changed without a change of the others, if as many
functions are made as before. -/
theorem insertAll_apart {bodies : List (List Stmt)}
    (h : ∀ body ∈ bodies, ∃ (sample : Sample) (index : Option Int),
      sample.parse index = .ok body) :
    Apart bodies ∧
      ∀ before old new after, bodies = before ++ old ++ after →
        (∀ body ∈ new, ∃ (sample : Sample) (index : Option Int), sample.parse index = .ok body) →
        totalThunks new = totalThunks old →
          (insertAll {} (before ++ new ++ after)).1.take before.length =
              (insertAll {} bodies).1.take before.length ∧
            (insertAll {} (before ++ new ++ after)).1.drop (before ++ new).length =
              (insertAll {} bodies).1.drop (before ++ old).length := by
  have hall := fresh_of_parsed h
  obtain ⟨himports, hfindings, hthunks, hsize⟩ := sums_insertAll {} hall
  constructor
  · constructor
    · exact length_insertAll {} bodies
    · rintro before body after rfl
      exact out_insertAll hall
    · rw [himports, List.nil_append]
    · rw [hfindings, List.nil_append, List.length_flatMap]
    · rw [hthunks]
      exact Nat.zero_add _
    · rw [hsize]
      exact Nat.zero_add _
  · rintro before old new after rfl hnew hcount
    simp only [List.forall_mem_append] at hall
    exact insertAll_around hall.1.1 hall.1.2 (fresh_of_parsed hnew) hall.2 hcount

namespace SharedNumbers

/-- Errors are expected in a coroutine, in a function and in a class. -/
def errors : Sample :=
  { title := none, language := "python+test"
    source := "import os\nb  # KeyError: k\ndef f():\n    c  # ValueError: v\n" ++
      "class C:\n    d  # NameError: n\n" }

/-- The name is one that a check could make. -/
def values : Sample :=
  { title := none, language := "python+test", source := "__mddoctest_thunk_1__  # => 1\n" }

end SharedNumbers

theorem insertAll_apart_sharedNumbers : ∃ errors values,
    SharedNumbers.errors.parse = .ok errors ∧ SharedNumbers.values.parse = .ok values ∧
      thunks errors = 2 ∧ totalThunks [values] = totalThunks [] ∧
      Apart [errors, errors] ∧
      (insertAll {} [errors, values, errors]).1.drop 2 =
        (insertAll {} [errors, errors]).1.drop 1 := by
  have herrors : SharedNumbers.errors.parse.toOption.map thunks = some 2 := by decide +kernel
  have hvalues : SharedNumbers.values.parse.toOption.map thunks = some 0 := by decide +kernel
  obtain ⟨errors, hread, htwo⟩ := exists_of_toOption_map herrors
  obtain ⟨values, hread', hnone⟩ := exists_of_toOption_map hvalues
  have hcount : totalThunks [values] = totalThunks [] := by simp [totalThunks, hnone]
  have hall : ∀ body ∈ [errors, errors], ∃ (sample : Sample) (index : Option Int),
      sample.parse index = .ok body := by
    simp only [List.forall_mem_cons, List.not_mem_nil, false_implies, implies_true, and_true,
      and_self]
    exact ⟨SharedNumbers.errors, none, hread⟩
  have hnew : ∀ body ∈ [values], ∃ (sample : Sample) (index : Option Int),
      sample.parse index = .ok body := by
    rw [List.forall_mem_singleton]
    exact ⟨SharedNumbers.values, none, hread'⟩
  obtain ⟨hapart, hreplaced⟩ := insertAll_apart hall
  obtain ⟨-, hdrop⟩ := hreplaced [errors] [] [values] [errors] rfl hnew hcount
  exact ⟨errors, values, hread, hread', htwo, hcount, hapart, hdrop⟩

end DocSuite
