import DocSuite.Check.Insert
import DocSuite.Proofs.Forest

/-!
What one statement does to the checks of a document. Main statements: a statement without blocks
that is no check yet either gets its check, or is an import and leaves the body, or stays as it is;
and a relation that holds of each statement, and of what is put together, holds of whole samples.
-/
namespace DocSuite

open DocSuite.Syntax

/-! ### Scopes between heads -/

/-- The scope that a head makes for its blocks. Most heads leave them in the scope around. -/
def Syntax.Head.ownScope? : Head → Option Scope
  | .function true .. => some .coroutine
  | .function false .. => some .function
  | .classDef .. => some .classBody
  | _ => none

/-- The scope between some heads, the nearest first. A sample is the body of a coroutine. -/
def scopeBetween (heads : List Head) : Scope := (heads.findSome? Head.ownScope?).getD .coroutine

@[simp] theorem scopeBetween_nil : scopeBetween [] = .coroutine := rfl

theorem scopeBetween_cons (head : Head) (heads : List Head) :
    scopeBetween (head :: heads) = (scopeBetween heads).enter head := by
  cases head with
  | function isAsync => cases isAsync <;> rfl
  | _ => rfl

/-! ### Single statements -/

theorem form_of_expectation? {site : Site} {form : Simple} {x : Expr} {e : Expectation}
    (h : (Stmt.simple site form).expectation? = some (x, e)) : form = .expr x := by
  cases form with
  | expr value =>
    simp only [Stmt.expectation?, Option.map_eq_some_iff] at h
    obtain ⟨_, -, he⟩ := h
    cases he
    rfl
  | _ => simp [Stmt.expectation?] at h

namespace Checks

/-- The checks that know of one more import. -/
def hoist (checks : Checks) (stmt : Stmt) : Checks :=
  { checks with imports := checks.imports ++ [stmt] }

variable {checks : Checks} {scope : Scope} {site : Site} {form : Simple}

theorem isImport_of_expectation? {x : Expr} {e : Expectation}
    (h : (Stmt.simple site form).expectation? = some (x, e)) :
    (Stmt.simple site form).isImport = false := by
  obtain rfl := form_of_expectation? h
  rfl

theorem simple_of_expectation {x : Expr} {e : Expectation} (hr : site.recorded = false)
    (h : (Stmt.simple site form).expectation? = some (x, e)) :
    checks.simple scope (.simple site form) = checks.check scope site.span.start.line x e := by
  simp only [simple, Stmt.site, hr, h, Bool.false_eq_true, if_false]

theorem simple_of_isImport (hr : site.recorded = false)
    (h : (Stmt.simple site form).isImport = true) :
    checks.simple scope (.simple site form) = ([], checks.hoist (.simple site form)) := by
  cases form with
  | importModules names => simp [simple, Stmt.site, hr, Stmt.expectation?, hoist]
  | importFrom source names level => simp [simple, Stmt.site, hr, Stmt.expectation?, hoist]
  | _ => simp [Stmt.isImport] at h

theorem simple_of_other (hr : site.recorded = false)
    (he : (Stmt.simple site form).expectation? = none)
    (hi : (Stmt.simple site form).isImport = false) :
    checks.simple scope (.simple site form) = ([.simple site form], checks) := by
  cases form with
  | importModules names => simp [Stmt.isImport] at hi
  | importFrom source names level => simp [Stmt.isImport] at hi
  | _ => simp [simple, Stmt.site, hr, he]

/-- All that can happen to a statement without blocks. -/
theorem simple_cases (checks : Checks) (scope : Scope) (form : Simple)
    (hr : site.recorded = false) :
    (∃ x e, (Stmt.simple site form).expectation? = some (x, e) ∧
      (Stmt.simple site form).isImport = false ∧
      checks.simple scope (.simple site form) = checks.check scope site.span.start.line x e) ∨
    ((Stmt.simple site form).expectation? = none ∧ (Stmt.simple site form).isImport = true ∧
      checks.simple scope (.simple site form) = ([], checks.hoist (.simple site form))) ∨
    ((Stmt.simple site form).expectation? = none ∧ (Stmt.simple site form).isImport = false ∧
      checks.simple scope (.simple site form) = ([.simple site form], checks)) := by
  cases he : (Stmt.simple site form).expectation? with
  | some found =>
    obtain ⟨x, e⟩ := found
    exact .inl ⟨x, e, rfl, isImport_of_expectation? he, simple_of_expectation hr he⟩
  | none =>
    cases hi : (Stmt.simple site form).isImport with
    | true => exact .inr (.inl ⟨rfl, rfl, simple_of_isImport hr hi⟩)
    | false => exact .inr (.inr ⟨rfl, rfl, simple_of_other hr he hi⟩)

theorem insertStmt_compound (checks : Checks) (scope : Scope) (head : Head) (blocks : List Block)
    (hr : site.recorded = false) :
    checks.insertStmt scope (.compound site head blocks) =
      ([.compound site head (checks.insertBlocks (scope.enter head) blocks).1],
        (checks.insertBlocks (scope.enter head) blocks).2) := by
  simp [insertStmt, hr]

theorem insertBlocks_cons (checks : Checks) (scope : Scope) (label : Label) (body : List Stmt)
    (rest : List Block) :
    checks.insertBlocks scope (⟨label, body⟩ :: rest) =
      (block label body (checks.insertBody scope body).1 ++
          ((checks.insertBody scope body).2.insertBlocks scope rest).1,
        ((checks.insertBody scope body).2.insertBlocks scope rest).2) := by
  rw [insertBlocks]

theorem insertBody_cons (checks : Checks) (scope : Scope) (stmt : Stmt) (rest : List Stmt) :
    checks.insertBody scope (stmt :: rest) =
      ((checks.insertStmt scope stmt).1 ++
          ((checks.insertStmt scope stmt).2.insertBody scope rest).1,
        ((checks.insertStmt scope stmt).2.insertBody scope rest).2) := by
  rw [insertBody]

/-- All that can happen to a block: it holds what is left, or is emptied and then gone or filled. -/
theorem block_cases (label : Label) (before after : List Stmt) :
    ((before = [] ∨ after ≠ []) ∧ block label before after = [⟨label, after⟩]) ∨
    (before ≠ [] ∧ after = [] ∧ label = .orelse ∧ block label before after = []) ∨
    (before ≠ [] ∧ after = [] ∧ label ≠ .orelse ∧
      block label before after = [⟨label, [Stmt.pass]⟩]) := by
  cases before with
  | nil => exact .inl ⟨.inl rfl, rfl⟩
  | cons first others =>
    cases after with
    | cons stmt after =>
      refine .inl ⟨.inr (List.cons_ne_nil _ _), ?_⟩
      cases label <;> rfl
    | nil =>
      cases label with
      | orelse => exact .inr (.inl ⟨List.cons_ne_nil _ _, rfl, rfl, rfl⟩)
      | body | finalbody | handler | case =>
        exact .inr (.inr ⟨List.cons_ne_nil _ _, rfl, nofun, rfl⟩)

/-! ### Relations that the insertion keeps -/

/-- A relation between bodies and what they become, with one between their blocks. It holds of each
statement between some heads, and of what is put together out of parts of which it holds. -/
structure Invariant (ofBody : List Head → Checks → List Stmt → List Stmt → Checks → Prop)
    (ofBlocks : List Head → Checks → List Block → List Block → Checks → Prop) : Prop where
  nil : ∀ heads checks, ofBody heads checks [] [] checks
  append : ∀ {heads checks checks' checks'' before before' after after'},
    ofBody heads checks before after checks' → ofBody heads checks' before' after' checks'' →
      ofBody heads checks (before ++ before') (after ++ after') checks''
  check : ∀ heads checks {site form x e}, site.recorded = false →
    (Stmt.simple site form).expectation? = some (x, e) →
      ofBody heads checks [.simple site form]
        (checks.check (scopeBetween heads) site.span.start.line x e).1
        (checks.check (scopeBetween heads) site.span.start.line x e).2
  hoist : ∀ heads checks {site form}, site.recorded = false →
    (Stmt.simple site form).expectation? = none → (Stmt.simple site form).isImport = true →
      ofBody heads checks [.simple site form] [] (checks.hoist (.simple site form))
  stay : ∀ heads checks {site form}, site.recorded = false →
    (Stmt.simple site form).expectation? = none → (Stmt.simple site form).isImport = false →
      ofBody heads checks [.simple site form] [.simple site form] checks
  compound : ∀ {heads checks checks' site head before after}, site.recorded = false →
    ofBlocks (head :: heads) checks before after checks' →
      ofBody heads checks [.compound site head before] [.compound site head after] checks'
  noBlocks : ∀ heads checks, ofBlocks heads checks [] [] checks
  block : ∀ {heads checks checks' before after} (label : Label),
    ofBody heads checks before after checks' →
      ofBlocks heads checks [⟨label, before⟩] (Checks.block label before after) checks'
  appendBlocks : ∀ {heads checks checks' checks'' before before' after after'},
    ofBlocks heads checks before after checks' → ofBlocks heads checks' before' after' checks'' →
      ofBlocks heads checks (before ++ before') (after ++ after') checks''

namespace Invariant

variable {ofBody : List Head → Checks → List Stmt → List Stmt → Checks → Prop}
  {ofBlocks : List Head → Checks → List Block → List Block → Checks → Prop}

mutual

theorem insertStmt (inv : Invariant ofBody ofBlocks) (stmt : Stmt) (heads : List Head)
    (checks : Checks) (h : Fresh stmt.nodes) :
    ofBody heads checks [stmt] (checks.insertStmt (scopeBetween heads) stmt).1
      (checks.insertStmt (scopeBetween heads) stmt).2 := by
  cases stmt with
  | simple site form =>
    have hr : site.recorded = false := by simpa [Stmt.nodes] using h
    rw [Checks.insertStmt]
    rcases simple_cases checks (scopeBetween heads) form hr with
      ⟨x, e, he, -, hc⟩ | ⟨he, hi, hc⟩ | ⟨he, hi, hc⟩
    · rw [hc]
      exact inv.check heads checks hr he
    · rw [hc]
      exact inv.hoist heads checks hr he hi
    · rw [hc]
      exact inv.stay heads checks hr he hi
  | compound site head blocks =>
    simp only [Stmt.nodes, fresh_cons, Stmt.site_compound] at h
    rw [insertStmt_compound checks _ head blocks h.1, ← scopeBetween_cons]
    exact inv.compound h.1 (inv.insertBlocks blocks (head :: heads) checks h.2)

theorem insertBlocks (inv : Invariant ofBody ofBlocks) (blocks : List Block) (heads : List Head)
    (checks : Checks) (h : Fresh (nodesOfBlocks blocks)) :
    ofBlocks heads checks blocks (checks.insertBlocks (scopeBetween heads) blocks).1
      (checks.insertBlocks (scopeBetween heads) blocks).2 := by
  cases blocks with
  | nil => exact inv.noBlocks heads checks
  | cons block rest =>
    obtain ⟨label, before⟩ := block
    simp only [nodesOfBlocks, fresh_append] at h
    rw [insertBlocks_cons]
    exact inv.appendBlocks (inv.block label (inv.insertBody before heads checks h.1))
      (inv.insertBlocks rest heads _ h.2)

theorem insertBody (inv : Invariant ofBody ofBlocks) (body : List Stmt) (heads : List Head)
    (checks : Checks) (h : Fresh (nodesOf body)) :
    ofBody heads checks body (checks.insertBody (scopeBetween heads) body).1
      (checks.insertBody (scopeBetween heads) body).2 := by
  cases body with
  | nil => exact inv.nil heads checks
  | cons stmt rest =>
    simp only [nodesOf, fresh_append] at h
    rw [insertBody_cons]
    exact inv.append (inv.insertStmt stmt heads checks h.1) (inv.insertBody rest heads _ h.2)

end

/-- The relation holds of a sample and what it becomes, but for the statement that a sample without
any other gets. -/
theorem insert (inv : Invariant ofBody ofBlocks) (checks : Checks) {body : List Stmt}
    (h : Fresh (nodesOf body)) : ∃ after,
      ofBody [] checks body after (checks.insert body).2 ∧
        (checks.insert body).1 = if after = [] then [Stmt.pass] else after := by
  have hbody := inv.insertBody body [] checks h
  rw [scopeBetween_nil] at hbody
  exact ⟨_, hbody, by simp only [Checks.insert, List.isEmpty_iff]⟩

end Invariant

end Checks

end DocSuite
